import OpxSai.Acl.Rule

/-!
# What the calls on ACL rules leave alone

One lemma for each function says what it may change; the invariants are derived from these.

* `OutsideOnly` — nothing has changed but what lies outside: the calls into the NPU library, and
  the sample packet module;
* `SameIds` — two versions of a rule differ in their fields, actions and counter only.
-/

variable (env : AclEnv) (rule orig : AclRule)

namespace OpxSai

open AclDb
variable {db : AclDb} (r : AclRule)

/-! ## Only the outside -/

/-- Nothing has changed but the sample packet module and the calls into the NPU library. -/
def OutsideOnly (db db' : AclDb) : Prop :=
  ∃ sample npu_log, db' = { db with sample := sample, npu_log := npu_log }

namespace OutsideOnly

variable {db' db'' : AclDb}

theorem refl (db) : OutsideOnly db db := ⟨db.sample, db.npu_log, rfl⟩

theorem trans (h : OutsideOnly db db') (h' : OutsideOnly db' db'') : OutsideOnly db db'' := by
  obtain ⟨s, l, rfl⟩ := h
  obtain ⟨s', l', rfl⟩ := h'
  exact ⟨s', l', rfl⟩

theorem call (c) (db) : OutsideOnly db (db.call env c).2 :=
  ⟨db.sample, _, rfl⟩

theorem modRule (h : OutsideOnly db db') {p : Ptr} (f : AclRule → AclRule) :
    OutsideOnly (db.modRule p f) (db'.modRule p f) := by
  obtain ⟨s, l, rfl⟩ := h
  exact ⟨s, l, rfl⟩

theorem modPolicer (h : OutsideOnly db db') (q) (f : List Ptr → List Ptr) :
    OutsideOnly (db.modPolicer q f) (db'.modPolicer q f) := by
  obtain ⟨s, l, rfl⟩ := h
  exact ⟨s, l, rfl⟩

theorem rules (h : OutsideOnly db db') : db'.rules = db.rules := by
  obtain ⟨s, l, rfl⟩ := h
  rfl

theorem rule_tree (h : OutsideOnly db db') : db'.rule_tree = db.rule_tree := by
  obtain ⟨s, l, rfl⟩ := h
  rfl

theorem table_tree (h : OutsideOnly db db') : db'.table_tree = db.table_tree := by
  obtain ⟨s, l, rfl⟩ := h
  rfl

theorem policer_tree (h : OutsideOnly db db') : db'.policer_tree = db.policer_tree := by
  obtain ⟨s, l, rfl⟩ := h
  rfl

theorem counter_tree (h : OutsideOnly db db') : db'.counter_tree = db.counter_tree := by
  obtain ⟨s, l, rfl⟩ := h
  rfl

theorem attachCntr : OutsideOnly db (attachCntrToAclRule env rule db).2 := by
  unfold attachCntrToAclRule
  split
  · exact refl db
  · exact call env _ db

theorem detachCntr (db) : OutsideOnly db (detachCntrFromAclRule env rule db).2 := by
  unfold detachCntrFromAclRule
  split
  · exact refl db
  split
  · exact refl db
  · exact call env _ db

theorem createSamplepacket : OutsideOnly db (aclRuleCreateSamplepacket env rule db).2 :=
  ⟨_, db.npu_log, rfl⟩

theorem removeSamplepacket : OutsideOnly db (aclRuleRemoveSamplepacket env rule db) :=
  ⟨_, db.npu_log, rfl⟩

theorem validateUpdateSamplepacket (validate update : Bool) (db) :
    OutsideOnly db (aclRuleValidateUpdateSamplepacket env rule orig validate update db).2 := by
  unfold aclRuleValidateUpdateSamplepacket
  split
  · exact ⟨_, db.npu_log, rfl⟩
  split
  · exact refl db
  · exact ⟨_, db.npu_log, rfl⟩

end OutsideOnly

theorem validateUpdateSamplepacket_npu_log (validate update : Bool) (db) :
    (aclRuleValidateUpdateSamplepacket env rule orig validate update db).2.npu_log =
      db.npu_log := by
  unfold aclRuleValidateUpdateSamplepacket
  split
  · rfl
  · split <;> rfl

/-! ## The update of a rule -/

/-- Two versions of a rule have everything in common but fields, actions and counter. -/
structure SameIds (r r' : AclRule) : Prop where
  acl_id : r'.acl_id = r.acl_id
  table_id : r'.table_id = r.table_id
  acl_rule_priority : r'.acl_rule_priority = r.acl_rule_priority
  acl_rule_state : r'.acl_rule_state = r.acl_rule_state
  policer_id : r'.policer_id = r.policer_id
  ingress_sample_id : r'.ingress_sample_id = r.ingress_sample_id
  egress_sample_id : r'.egress_sample_id = r.egress_sample_id

namespace SameIds

theorem refl : SameIds r r := ⟨rfl, rfl, rfl, rfl, rfl, rfl, rfl⟩

theorem trans {r r' r'' : AclRule} (h : SameIds r r') (h' : SameIds r' r'') : SameIds r r'' :=
  ⟨h'.acl_id.trans h.acl_id, h'.table_id.trans h.table_id,
    h'.acl_rule_priority.trans h.acl_rule_priority, h'.acl_rule_state.trans h.acl_rule_state,
    h'.policer_id.trans h.policer_id, h'.ingress_sample_id.trans h.ingress_sample_id,
    h'.egress_sample_id.trans h.egress_sample_id⟩

theorem filters (l) : SameIds r { r with filter_list := l } :=
  ⟨rfl, rfl, rfl, rfl, rfl, rfl, rfl⟩

theorem actions (l) : SameIds r { r with action_list := l } :=
  ⟨rfl, rfl, rfl, rfl, rfl, rfl, rfl⟩

theorem counter (c) : SameIds r { r with counter_id := c } :=
  ⟨rfl, rfl, rfl, rfl, rfl, rfl, rfl⟩

end SameIds

/-- The outcome of an update: the rule keeps its ids, and the state changes outside only. -/
def UpdateFrame (given : AclRule) (db : AclDb) (rule : AclRule) (db' : AclDb) : Prop :=
  SameIds given rule ∧ OutsideOnly db db'

namespace UpdateFrame

variable {env : AclEnv} {given rule rule' : AclRule} {db' db'' : AclDb}

theorem refl (given) (db) : UpdateFrame given db given db :=
  ⟨.refl _, .refl db⟩

theorem trans (h : UpdateFrame given db rule db') (h' : UpdateFrame rule db' rule' db'') :
    UpdateFrame given db rule' db'' :=
  ⟨h.1.trans h'.1, h.2.trans h'.2⟩

theorem changeFields (env) (filters) (given) :
    SameIds given (aclRuleChangeFields env filters given).2 := by
  induction filters generalizing given with
  | nil => exact .refl _
  | cons scan filters ih =>
    simp only [aclRuleChangeFields]
    split
    · exact ih given
    split
    · exact ih given
    split
    · exact .filters _ _
    · exact (SameIds.filters _ _).trans (ih _)

theorem updateNewFields (env) (scan given) :
    SameIds given (aclRuleUpdateNewFields env scan given).2 := by
  simp only [aclRuleUpdateNewFields]
  split
  · exact .refl _
  split
  · exact .refl _
  split
  · exact .refl _
  · exact .filters _ _

theorem updateCounterAction (env) (scan given) (counter_action : Bool)
    (db) :
    UpdateFrame given db (aclRuleUpdateCounterAction env scan given counter_action db).2.1
      (aclRuleUpdateCounterAction env scan given counter_action db).2.2 := by
  have hdetach := OutsideOnly.detachCntr env given db
  simp only [aclRuleUpdateCounterAction]
  split
  · split
    · split
      · exact ⟨.refl _, hdetach⟩
      · exact ⟨.counter _ _, hdetach⟩
    · exact .refl _ db
  split
  · split
    · split
      · exact ⟨.refl _, hdetach⟩
      · exact ⟨.counter _ _, hdetach.trans (.attachCntr env _)⟩
    · exact .refl _ db
  · exact ⟨.counter _ _, .attachCntr env _⟩

theorem updateAction (env) (scan_rule) (scan act)
    (given) (db) :
    UpdateFrame given db (aclRuleUpdateAction env scan_rule scan act given db).2.1
      (aclRuleUpdateAction env scan_rule scan act given db).2.2 := by
  have hcounter := updateCounterAction env scan_rule given scan.enable db
  simp only [aclRuleUpdateAction]
  split
  · split
    · exact ⟨.actions _ _, .refl db⟩
    · exact ⟨.actions _ _, .refl db⟩
  by_cases hcnt : scan.action = .counter
  · rw [if_pos hcnt]
    split
    · exact hcounter
    · exact hcounter.trans ⟨.actions _ _, .refl _⟩
  rw [if_neg hcnt]
  split
  · exact .refl _ db
  · exact ⟨.actions _ _, .refl db⟩

theorem changeActions (env) (scan_rule) (actions)
    (given) (db) :
    UpdateFrame given db (aclRuleChangeActions env scan_rule actions given db).2.1
      (aclRuleChangeActions env scan_rule actions given db).2.2 := by
  induction actions generalizing given db with
  | nil => exact .refl _ db
  | cons scan actions ih =>
    simp only [aclRuleChangeActions]
    split
    · exact ih given db
    split
    · exact ih given db
    rename_i act hact
    have hone := updateAction env scan_rule scan act given db
    split
    · exact hone
    · exact hone.trans (ih _ _)

theorem appendActions (env) (scan_rule) (scans actions)
    (given) (db) :
    UpdateFrame given db (aclRuleAppendActions env scan_rule scans actions given db).2.2.1
      (aclRuleAppendActions env scan_rule scans actions given db).2.2.2 := by
  induction scans generalizing actions given db with
  | nil => exact .refl _ db
  | cons scan scans ih =>
    have hcounter := updateCounterAction env scan_rule given scan.enable db
    simp only [aclRuleAppendActions]
    split
    · exact ih actions given db
    split
    · split
      · exact .refl _ db
      · exact ih _ given db
    by_cases hcnt : scan.action = .counter
    · rw [if_pos hcnt]
      split
      · exact hcounter
      · exact hcounter.trans (ih _ _ _)
    rw [if_neg hcnt]
    split
    · exact .refl _ db
    · exact ih _ _ _

theorem updateNewActions (env) (scan given) (db) :
    UpdateFrame given db (aclRuleUpdateNewActions env scan given db).2.1
      (aclRuleUpdateNewActions env scan given db).2.2 := by
  have happend := appendActions env scan scan.action_list given.action_list given db
  simp only [aclRuleUpdateNewActions]
  split
  · exact .refl _ db
  split
  · exact .refl _ db
  split
  · exact happend
  · exact happend.trans ⟨.actions _ _, .refl _⟩

/-- **The update of fields and actions** keeps the ids of the rule. -/
theorem updateFieldAction {env : AclEnv} {scan : AclRule} (given) :
    UpdateFrame given db (aclRuleUpdateFieldAction env scan given db).2.1
      (aclRuleUpdateFieldAction env scan given db).2.2 := by
  have hfields := changeFields env scan.filter_list given
  simp only [aclRuleUpdateFieldAction]
  split
  · exact ⟨hfields, .refl db⟩
  have hactions := changeActions env scan scan.action_list
    (aclRuleChangeFields env scan.filter_list given).2 db
  split
  · exact ⟨hfields.trans hactions.1, hactions.2⟩
  have hnew := updateNewFields env scan (aclRuleChangeActions env scan scan.action_list
    (aclRuleChangeFields env scan.filter_list given).2 db).2.1
  split
  · exact ⟨(hfields.trans hactions.1).trans hnew, hactions.2⟩
  have hlast := updateNewActions env scan (aclRuleUpdateNewFields env scan
    (aclRuleChangeActions env scan scan.action_list
      (aclRuleChangeFields env scan.filter_list given).2 db).2.1).2
    (aclRuleChangeActions env scan scan.action_list
      (aclRuleChangeFields env scan.filter_list given).2 db).2.2
  exact ⟨((hfields.trans hactions.1).trans hnew).trans hlast.1, hactions.2.trans hlast.2⟩

end UpdateFrame

def aclRuleScalars (scan given : AclRule) (priority_change state_change : Bool) : AclRule :=
  { given with
    acl_rule_priority := if priority_change then scan.acl_rule_priority
      else given.acl_rule_priority
    acl_rule_state := if state_change then scan.acl_rule_state else given.acl_rule_state }

theorem aclRuleUpdate_eq (scan given) (priority_change state_change : Bool) (db) :
    aclRuleUpdate env scan given priority_change state_change db =
      (aclRuleUpdateFieldAction env scan
        (aclRuleScalars scan given priority_change state_change) db).2 := by
  unfold aclRuleUpdate aclRuleScalars
  cases priority_change <;> cases state_change <;> rfl

theorem aclRuleUpdate_frame (scan given) (priority_change state_change : Bool) (db) :
    UpdateFrame (aclRuleScalars scan given priority_change state_change) db
      (aclRuleUpdate env scan given priority_change state_change db).1
      (aclRuleUpdate env scan given priority_change state_change db).2 := by
  rw [aclRuleUpdate_eq]
  exact UpdateFrame.updateFieldAction _

end OpxSai
