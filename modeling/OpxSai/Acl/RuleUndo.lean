import OpxSai.Acl.RulePolicer
import OpxSai.SamplePacket.PortNodes

/-!
# What a failed create leaves behind

A create brings the rule to the NPU, then to the ports it samples on, to its counter, to its
policer and into the tree. The block at its end takes back the first two.

* `PolicersBelow` — what policers keep of rules, after any run whatsoever;
* `NothingLeft` — everything is as it was, and nothing refers to the freed rule;
* `CreateTakenBack` — the condition: no step fails behind the counter or behind the policer;
* `aclRuleCreate_nothingLeft_iff` — the main result.
-/

namespace OpxSai

open AclDb

variable {env : AclEnv} {p : Ptr} {q : Oid} {d db : AclDb} {rule : AclRule} {attrs : List AclAttr}
variable {q' tid : Oid} {l' : List Ptr} {present : AclRule} {x : Status × AclDb}

/-! ## Policers, in any run -/

/-- A rule is on the list of its policer if there is such a policer, and a list holds addresses
that have been handed out. A freed rule may be among them. -/
structure PolicersBelow (db : AclDb) : Prop where
  named : ∀ q l, db.policer_tree q = some l → q ≠ .null
  on : ∀ p rule, db.rules.get p = some rule →
    ∀ l, db.policer_tree rule.policer_id = some l → p ∈ l
  below : ∀ q l, db.policer_tree q = some l → ∀ p ∈ l, p < db.rules.next

namespace PolicersBelow

variable {db' : AclDb}

theorem of_lists (h : PolicersBelow db) (hnext : db.rules.next ≤ db'.rules.next)
    (hlists : ∀ q l', db'.policer_tree q = some l' → ∃ l, db.policer_tree q = some l ∧
      ∀ r ∈ l', r ∈ l ∨ r < db'.rules.next)
    (hon : ∀ p rule, db'.rules.get p = some rule →
      ∀ l, db'.policer_tree rule.policer_id = some l → p ∈ l) : PolicersBelow db' := by
  refine ⟨fun q l' hl' => ?_, hon, fun q l' hl' p hp => ?_⟩
  · obtain ⟨l, hl, -⟩ := hlists q l' hl'
    exact h.named q l hl
  · obtain ⟨l, hl, hin⟩ := hlists q l' hl'
    rcases hin p hp with hold | hnew
    · exact Nat.lt_of_lt_of_le (h.below q l hl p hold) hnext
    · exact hnew

theorem congr (h : PolicersBelow db) (hrules : ∀ p, db'.rules.get p = db.rules.get p)
    (hpolicers : ∀ q, db'.policer_tree q = db.policer_tree q)
    (hnext : db.rules.next ≤ db'.rules.next) : PolicersBelow db' := by
  refine h.of_lists hnext (fun q l hl => ?_) fun p rule hp l hl => ?_
  · rw [hpolicers] at hl
    exact ⟨l, hl, fun r hr => .inl hr⟩
  · rw [hrules] at hp
    rw [hpolicers] at hl
    exact h.on p _ hp l hl

theorem same (h : PolicersBelow db) (hs : SameAcl db db') : PolicersBelow db' :=
  h.congr hs.rules hs.policer_tree hs.next

theorem mem_attached (hl' : (policerAttached p q db).policer_tree q' = some l') :
    ∃ l, db.policer_tree q' = some l ∧ (∀ r, r ∈ l → r ∈ l') ∧ (∀ r ∈ l', r ∈ l ∨ r = p) ∧
      (q' = q → q' ≠ .null → p ∈ l') := by
  rw [policerAttached_apply] at hl'
  split at hl'
  · obtain ⟨l, hl, rfl⟩ := Option.map_eq_some_iff.mp hl'
    refine ⟨l, hl, fun r hr => List.mem_append_left _ hr, fun r hr => ?_, fun _ _ => by simp⟩
    rcases List.mem_append.mp hr with hold | hnew
    · exact .inl hold
    · exact .inr (List.mem_singleton.mp hnew)
  rename_i hother
  exact ⟨l', hl', fun r hr => hr, fun r hr => .inl hr,
    fun heq hne => absurd ⟨heq, hne⟩ hother⟩

theorem mem_detached (hon : ∀ l, db.policer_tree q = some l → p ∈ l)
    (hl' : (policerDetached env p q db).policer_tree q' = some l') :
    ∃ l, db.policer_tree q' = some l ∧ (∀ r, r ∈ l → r ≠ p → r ∈ l') ∧ (∀ r ∈ l', r ∈ l) ∧ (q' ≠ q → l' = l):= by
  rw [policerDetached_apply] at hl'
  split at hl'
  next hboth =>
    obtain ⟨l, hl, rfl⟩ := Option.map_eq_some_iff.mp hl'
    have hin : p ∈ l := hon l (hboth.1 ▸ hl)
    have hremove : aclDllRemove env p l = l.erase p := by
      unfold aclDllRemove
      rw [if_pos hin]
    rw [hremove]
    exact ⟨l, hl, fun r hr hne => (List.mem_erase_of_ne hne).mpr hr,
      fun r hr => List.mem_of_mem_erase hr, fun hne => absurd hboth.1 hne⟩
  · exact ⟨l', hl', fun r hr _ => hr, fun r hr => hr, fun _ => rfl⟩

theorem attached (h : PolicersBelow db) (hrules : ∀ r, r ≠ p → db'.rules.get r = db.rules.get r)
    (hrule : ∀ rule, db'.rules.get p = some rule → rule.policer_id = q)
    (hpolicers : ∀ r, db'.policer_tree r = (policerAttached p q db).policer_tree r)
    (hnext : db.rules.next ≤ db'.rules.next) (hp : p < db'.rules.next) : PolicersBelow db' := by
  refine h.of_lists hnext (fun r l' hl' => ?_) fun r rule hr l' hl' => ?_
  · rw [hpolicers] at hl'
    obtain ⟨l, hl, -, hcase, -⟩ := mem_attached hl'
    refine ⟨l, hl, fun s hs => ?_⟩
    rcases hcase s hs with hold | rfl
    · exact .inl hold
    · exact .inr hp
  · rw [hpolicers] at hl'
    obtain ⟨l, hl, hkeep, -, hself⟩ := mem_attached hl'
    by_cases heq : r = p
    · subst heq
      exact hself (hrule rule hr) (h.named _ l hl)
    · rw [hrules r heq] at hr
      exact hkeep r (h.on r _ hr l hl)

theorem detached (h : PolicersBelow db) (hp : db.rules.get p = some present)
    (hrules : ∀ r, r ≠ p → db'.rules.get r = db.rules.get r)
    (hrule : ∀ rule, db'.rules.get p = some rule → db.policer_tree rule.policer_id = none)
    (hpolicers : ∀ r, db'.policer_tree r = (policerDetached env p present.policer_id db).policer_tree r)
    (hnext : db.rules.next ≤ db'.rules.next) : PolicersBelow db' := by
  refine h.of_lists hnext (fun r l' hl' => ?_) fun r rule hr l' hl' => ?_
  · rw [hpolicers] at hl'
    obtain ⟨l, hl, -, hback, -⟩ := mem_detached (h.on p _ hp) hl'
    exact ⟨l, hl, fun s hs => .inl (hback s hs)⟩
  · rw [hpolicers] at hl'
    obtain ⟨l, hl, hkeep, -, -⟩ := mem_detached (h.on p _ hp) hl'
    by_cases heq : r = p
    · subst heq
      rw [hrule rule hr] at hl
      cases hl
    · rw [hrules r heq] at hr
      exact hkeep r (h.on r _ hr l hl) heq

theorem written (h : PolicersBelow db) {given}
    (hp : db.rules.get p = some present) (hsame : given.policer_id = present.policer_id)
    (hout : OutsideOnly (db.modRule p fun _ => given) db') : PolicersBelow db' := by
  have hwritten : PolicersBelow (db.modRule p fun _ => given) := by
    refine h.of_lists (Nat.le_refl _) (fun q l hl => ⟨l, hl, fun r hr => .inl hr⟩)
      fun r rule hr l hl => ?_
    have hget : (db.rules.modify p fun _ => given).get r = some rule := hr
    rw [Heap.get_modify] at hget
    split at hget
    next heq =>
      rw [heq, hp] at hget
      cases hget
      rw [heq]
      exact h.on p _ hp l (hsame ▸ hl)
    · exact h.on r _ hget l hl
  exact hwritten.same (.of_outside hout)

theorem set (h : PolicersBelow db) {acl_id} {attr} (hx : aclRuleSet env acl_id attr db = x) :
    PolicersBelow x.2 := by
  rcases aclRuleSet_cases hx with ⟨-, hsame⟩ | ⟨p, present, modify, given, hupd, hcase⟩
  · exact h.same (.of_outside hsame)
  have hp := (aclRuleFind_some hupd.find).2
  have hkept : given.policer_id = present.policer_id := hupd.ids.2.2.2.1
  rcases hcase with ⟨-, hout, -⟩ | ⟨d, hd, hpol⟩
  · exact h.written hp hkept hout
  have hd' : PolicersBelow d := h.written hp hkept hd
  have hget : d.rules.get p = some given := by
    rw [hd.rules]
    show (db.rules.modify p _).get p = _
    rw [Heap.get_modify_self, hp]
    rfl
  -- the rule off its policer, with the id that is written
  have hother : ∀ q r, r ≠ p →
      (policerWritten p q (policerDetached env p given.policer_id d)).rules.get r =
        d.rules.get r := by
    intro q r hne
    show ((policerDetached env p given.policer_id d).rules.modify p _).get r = _
    rw [Heap.get_modify, if_neg hne, policerDetached_rules]
  have hself : ∀ q rule,
      (policerWritten p q (policerDetached env p given.policer_id d)).rules.get p = some rule →
        rule.policer_id = q := by
    intro q rule hr
    have hr' : ((policerDetached env p given.policer_id d).rules.modify p
        fun rule => { rule with policer_id := q }).get p = some rule := hr
    rw [Heap.get_modify_self, policerDetached_rules, hget] at hr'
    cases hr'
    rfl
  have hwritten : ∀ q, d.policer_tree q = none →
      PolicersBelow (policerWritten p q (policerDetached env p given.policer_id d)) := by
    intro q hnone
    refine hd'.detached hget (hother q) (fun rule hr => ?_) (fun _ => rfl) ?_
    · rw [hself q rule hr]
      exact hnone
    · show d.rules.next ≤ (policerDetached env p given.policer_id d).rules.next
      rw [policerDetached_rules]
  rcases aclRulePolicerUpdate_cases hpol with ⟨-, rfl⟩ | ⟨-, -, -, -, hx2⟩ | ⟨-, -, hdone⟩
  · exact hd'
  · rw [hx2]
    exact hd'
  rcases hdone with ⟨-, hnone, -, hx2⟩ | ⟨-, rfl⟩
  · rw [hx2]
    exact hwritten modify.policer_id hnone
  have hnull : d.policer_tree .null = none := by
    cases hq : d.policer_tree .null with
    | none => rfl
    | some l => exact absurd rfl (hd'.named _ l hq)
  -- for a moment the rule has no policer
  refine (hwritten .null hnull).attached (p := p) (q := modify.policer_id)
    (fun r hne => ?_) (fun rule hr => ?_) (fun r => ?_) ?_ ?_
  · rw [policerAttached_rules, hother _ r hne, hother _ r hne]
  · rw [policerAttached_rules] at hr
    exact hself _ rule hr
  · rw [policerAttached_apply, policerAttached_apply]
    rfl
  · rw [policerAttached_rules]
    exact Nat.le_refl _
  · rw [policerAttached_rules]
    show p < (policerDetached env p given.policer_id d).rules.next
    rw [policerDetached_rules]
    exact Heap.lt_next_of_get hget

theorem step (h : PolicersBelow db) {c} : PolicersBelow (aclRuleStep c db) := by
  cases aclRuleStep_does c db with
  | same hs => exact h.same hs
  | @stuck env attrs _ hstuck =>
    have hrules : ∀ r, (aclRuleStep ⟨env, .create attrs⟩ db).rules.get r = db.rules.get r := by
      intro r
      refine (hstuck.same.rules r).trans ?_
      rw [policerAttached_rules]
    refine h.attached (fun r _ => hrules r) (fun rule' hr => ?_) hstuck.same.policer_tree
      (Nat.le_of_lt hstuck.next) hstuck.next
    rw [hrules] at hr
    exact absurd hr (by simp)
  | @created _ _ rule hc =>
    refine h.attached (p := db.rules.next) (q := rule.policer_id) (fun r hne => ?_)
      (fun rule' hr => ?_) (fun q => ?_) ?_ ?_
    · exact (hc.rules r).trans (if_neg hne)
    · have hr' := (hc.rules _).symm.trans hr
      rw [if_pos rfl] at hr'
      cases hr'
      rfl
    · rw [policerAttached_apply]
      exact hc.policer_tree q
    · exact hc.next ▸ Nat.le_succ _
    · exact hc.next ▸ Nat.lt_succ_self _
  | @moved env _ p rule hm =>
    have hp := (aclRuleFind_some hm.find).2
    refine PolicersBelow.same ?_ hm.same
    refine h.of_lists (Nat.le_refl _) (fun q l' hl' => ?_) fun r rule' hr l' hl' => ?_
    · have heq : (if q = rule.policer_id then
          (db.policer_tree q).map fun l => aclDllRemove env p l ++ [p] else db.policer_tree q) =
          some l' := hl'
      split at heq
      next hq =>
        obtain ⟨l, hl, rfl⟩ := Option.map_eq_some_iff.mp heq
        have hin : p ∈ l := h.on p _ hp l (hq ▸ hl)
        refine ⟨l, hl, fun s hs => .inl ?_⟩
        rcases List.mem_append.mp hs with hold | hnew
        · unfold aclDllRemove at hold
          rw [if_pos hin] at hold
          exact List.mem_of_mem_erase hold
        · rw [List.mem_singleton.mp hnew]
          exact hin
      · exact ⟨l', heq, fun s hs => .inl hs⟩
    · have heq : (if rule'.policer_id = rule.policer_id then
          (db.policer_tree rule'.policer_id).map fun l => aclDllRemove env p l ++ [p]
          else db.policer_tree rule'.policer_id) = some l' := hl'
      split at heq
      next hq =>
        obtain ⟨l, hl, rfl⟩ := Option.map_eq_some_iff.mp heq
        have hin : p ∈ l := h.on p _ hp l (hq ▸ hl)
        unfold aclDllRemove
        rw [if_pos hin, List.mem_append]
        by_cases hrp : r = p
        · exact .inr (List.mem_singleton.mpr hrp)
        · exact .inl ((List.mem_erase_of_ne hrp).mpr (h.on r _ hr l hl))
      · exact h.on r _ hr l' heq
  | @deleted env id p rule hd =>
    have hp := (aclRuleFind_some hd.find).2
    have hpolicers : ∀ q, (aclRuleStep ⟨env, .delete id⟩ db).policer_tree q =
        (policerDetached env p rule.policer_id db).policer_tree q := by
      intro q
      rw [policerDetached_apply]
      exact hd.policer_tree q
    refine h.detached hp (fun r hne => (hd.rules r).trans (if_neg hne)) (fun rule' hr => ?_)
      hpolicers (Nat.le_of_eq hd.next.symm)
    have hr' := (hd.rules p).symm.trans hr
    rw [if_pos rfl] at hr'
    cases hr'
  | rewritten => exact h.set rfl

theorem empty (h : NoRules db) (hpol : NoRulesPoliced db) : PolicersBelow db := by
  refine ⟨fun q l hl => (hpol q l hl).2, fun p rule hp => ?_, fun q l hl p hin => ?_⟩
  · exact absurd hp (by simp [h.rules])
  · rw [(hpol q l hl).1] at hin
    cases hin

end PolicersBelow

/-- How often a counter is attached to a rule: the NPU calls that attached it, less those that
detached it. -/
def cntrAttachments (npu_log : List (AclCall × Status)) (acl_id counter_id : Oid) : Int :=
  (npu_log.count (.attachCntr acl_id counter_id, .success) : Int) -
    (npu_log.count (.detachCntr acl_id counter_id, .success) : Int)

def SamePorts (d d' : SampleAclDb) : Prop :=
  ∀ s key, (d'.db.portAt s key).map (·.2) = (d.db.portAt s key).map (·.2)

theorem SamePorts.refl (d) : SamePorts d d := fun _ _ => rfl

/-- Everything is as it was, and nothing refers to the rule that was freed. -/
structure NothingLeft (db db' : AclDb) : Prop where
  rule_tree : ∀ r, db'.rule_tree r = db.rule_tree r
  lists : ∀ t, db'.listsOf t = db.listsOf t
  counters : ∀ r c, cntrAttachments db'.npu_log r c = cntrAttachments db.npu_log r c
  policers : ∀ q, db'.policer_tree q = db.policer_tree q
  ports : SamePorts db.sample db'.sample
  freed : db'.rules.get db.rules.next = none
  unlisted : ∀ t l, db'.listsOf t = some l → db.rules.next ∉ l.1
  unpoliced : ∀ q l, db'.policer_tree q = some l → db.rules.next ∉ l
  untreed : ∀ r, db'.rule_tree r ≠ some db.rules.next

/-! ## The condition -/

/-- A create has come as far as a rule in the NPU, in the state `d`. -/
structure RuleInstalled (env : AclEnv) (attr_list : List AclAttr) (db : AclDb) (table_id : Oid)
    (rule : AclRule) (d : AclDb) : Prop where
  nonempty : attr_list ≠ []
  made : ∃ counts table rule₀ n,
    aclCheckRuleAttributes 0 ⟨0, 0, .null⟩ attr_list = .ok counts ∧ counts.field_count ≠ 0 ∧
    counts.acl_table_id = table_id ∧ db.table_tree table_id = some table ∧
    env.avail .rule = true ∧ aclRulePopulate env table .zero attr_list = .ok rule₀ ∧
    aclValidateCreateRule rule₀ { db with rules := db.rules.alloc rule₀ } = .success ∧
    allocateAclRuleIndex { db with rules := db.rules.alloc rule₀ } = some n ∧
    rule = { rule₀ with acl_id := uoidCreate .aclEntry n } ∧
    installAclRule env table_id table rule { db with rules := db.rules.alloc rule } = (.success, d)

def ruleSampled (env : AclEnv) (rule : AclRule) (d : AclDb) : Status × AclDb :=
  if aclRuleHasSample rule then aclRuleCreateSamplepacket env rule d else (.success, d)

def ruleUnsampled (env : AclEnv) (rule : AclRule) (d : AclDb) : AclDb :=
  if aclRuleHasSample rule then aclRuleRemoveSamplepacket env rule d else d

def ruleCounted (env : AclEnv) (rule : AclRule) (d : AclDb) : Status × AclDb :=
  if rule.counter_id ≠ .null then attachCntrToAclRule env rule d else (.success, d)

/-- The condition on an installed rule. If it cannot be put on its ports, then it has not been put
on any of them. If a later step fails, then taking it off the ports takes back what putting it there
did, and no counter and no policer has been attached by then. -/
def InstalledTakenBack (env : AclEnv) (rule : AclRule) (d : AclDb) : Prop :=
  let sampled := ruleSampled env rule d
  let back := SamePorts d.sample (ruleUnsampled env rule sampled.2).sample
  if sampled.1 ≠ .success then SamePorts d.sample sampled.2.sample
  else if (ruleCounted env rule sampled.2).1 ≠ .success then back
  else if rule.policer_id ≠ .null ∧ d.policer_tree rule.policer_id = none then
    back ∧ rule.counter_id = .null
  else if env.avail .ruleTree = false then
    back ∧ rule.counter_id = .null ∧ rule.policer_id = .null
  else True

/-- The condition on a create. Before the rule is in the NPU there is nothing to take back. -/
def CreateTakenBack (env : AclEnv) (attr_list : List AclAttr) (db : AclDb) : Prop :=
  ∀ table_id rule d, RuleInstalled env attr_list db table_id rule d → InstalledTakenBack env rule d

/-! ## Counters -/

theorem cntrAttachments_call (env : AclEnv) (c : AclCall) (db : AclDb) (r cnt : Oid)
    (hattach : ∀ r cnt, c ≠ .attachCntr r cnt) (hdetach : ∀ r cnt, c ≠ .detachCntr r cnt) :
    cntrAttachments (db.call env c).2.npu_log r cnt = cntrAttachments db.npu_log r cnt := by
  unfold cntrAttachments AclDb.call
  rw [List.count_append, List.count_append, List.count_singleton, List.count_singleton]
  simp [hattach r cnt, hdetach r cnt]

theorem cntrAttachments_attach (env) (rule) (db) (r cnt) :
    cntrAttachments (attachCntrToAclRule env rule db).2.npu_log r cnt =
      cntrAttachments db.npu_log r cnt +
        if (attachCntrToAclRule env rule db).1 = .success ∧ r = rule.acl_id ∧
          cnt = rule.counter_id then 1 else 0 := by
  unfold attachCntrToAclRule
  cases db.counter_tree rule.counter_id with
  | none => simp
  | some t =>
    unfold cntrAttachments AclDb.call
    dsimp only
    rw [List.count_append, List.count_append, List.count_singleton, List.count_singleton]
    by_cases hok : env.status db.npu_log (.attachCntr rule.acl_id rule.counter_id) = .success
    · by_cases hsame : r = rule.acl_id ∧ cnt = rule.counter_id
      · obtain ⟨rfl, rfl⟩ := hsame
        simp [hok]
        omega
      have hne : ¬ (rule.acl_id = r ∧ rule.counter_id = cnt) := fun hand =>
        hsame ⟨hand.1.symm, hand.2.symm⟩
      simp [hok, hne, hsame]
    · simp [hok]

theorem ruleCounted_sample (env) (rule) (db) :
    (ruleCounted env rule db).2.sample = db.sample := by
  unfold ruleCounted attachCntrToAclRule
  split
  · split <;> rfl
  · rfl

theorem ruleCounted_outside (env) (rule) (db) :
    OutsideOnly db (ruleCounted env rule db).2 := by
  unfold ruleCounted
  split
  · exact .attachCntr env _
  · exact .refl db

theorem ruleCounted_attachments (env) (rule) (db) (r cnt) :
    cntrAttachments (ruleCounted env rule db).2.npu_log r cnt =
      cntrAttachments db.npu_log r cnt +
        if (ruleCounted env rule db).1 = .success ∧ rule.counter_id ≠ .null ∧ r = rule.acl_id ∧
          cnt = rule.counter_id then 1 else 0 := by
  unfold ruleCounted
  by_cases hnull : rule.counter_id = .null
  · simp [hnull]
  · rw [if_pos hnull, cntrAttachments_attach]
    simp [hnull]

/-! ## From the installed rule on -/

/-- What the steps of a create write to beside trees and lists of rules is the same. -/
structure SideTablesSame (db db' : AclDb) : Prop where
  ports : SamePorts db.sample db'.sample
  counters : ∀ r c, cntrAttachments db'.npu_log r c = cntrAttachments db.npu_log r c
  policers : ∀ q, db'.policer_tree q = db.policer_tree q

theorem aclRuleUninstall_left {p} {rule} {installed : Bool}
    {d} (d' : AclDb) (hcall : d' = aclRuleUninstall env p rule installed d) :
    d'.sample = (if installed then aclRuleRemoveSamplepacket env rule d else d).sample ∧
      (∀ r c, cntrAttachments d'.npu_log r c = cntrAttachments d.npu_log r c) ∧
      d'.policer_tree = d.policer_tree := by
  subst hcall
  have hlog := cntrAttachments_call env (.deleteRule rule) d
  cases installed with
  | true => exact ⟨rfl, fun r c => hlog r c (by simp) (by simp), rfl⟩
  | false => exact ⟨rfl, fun r c => hlog r c (by simp) (by simp), rfl⟩

theorem ruleSampled_outside (env) (rule) (d) :
    (ruleSampled env rule d).2.npu_log = d.npu_log ∧
      (ruleSampled env rule d).2.policer_tree = d.policer_tree := by
  unfold ruleSampled
  split <;> exact ⟨rfl, rfl⟩

theorem policerAttached_ne (hq : q ≠ .null) (hsome : (d.policer_tree q).isSome) :
    (policerAttached p q d).policer_tree q ≠ d.policer_tree q := by
  obtain ⟨l, hl⟩ := Option.isSome_iff_exists.mp hsome
  rw [policerAttached_apply, if_pos ⟨rfl, hq⟩, hl]
  intro heq
  have hlen := congrArg List.length (Option.some.inj heq)
  simp at hlen

theorem attachPolicer_eq (p) (q) (d) :
    (if q ≠ .null then attachPolicerToAclRule p q d else (.success, d)) =
      if q ≠ .null ∧ d.policer_tree q = none then (.invalidObjectId, d)
      else (.success, policerAttached p q d) := by
  unfold attachPolicerToAclRule policerAttached
  by_cases hnull : q = .null
  · simp [hnull]
  cases hget : d.policer_tree q with
  | none => simp [hnull]
  | some l => simp [hnull]

/-- A failed create leaves of a step what the block at its end does not take back. -/
theorem sideTablesSame_uninstall_iff (env) (p) (rule) (d s e)
    (hsample : e.sample = s.sample) :
    SideTablesSame d (aclRuleUninstall env p rule (aclRuleHasSample rule) e) ↔
      SamePorts d.sample (ruleUnsampled env rule s).sample ∧
      (∀ r c, cntrAttachments e.npu_log r c = cntrAttachments d.npu_log r c) ∧
      ∀ q, e.policer_tree q = d.policer_tree q := by
  obtain ⟨hports, hcounters, hpolicers⟩ :=
    aclRuleUninstall_left _ rfl
  have hback : (if aclRuleHasSample rule then aclRuleRemoveSamplepacket env rule e else e).sample =
      (ruleUnsampled env rule s).sample := by
    unfold ruleUnsampled aclRuleRemoveSamplepacket
    split
    · dsimp only
      rw [hsample]
    · exact hsample
  rw [hback] at hports
  constructor
  · intro h
    refine ⟨?_, fun r c => ?_, fun q => ?_⟩
    · rw [← hports]
      exact h.ports
    · rw [← hcounters]
      exact h.counters r c
    · rw [← hpolicers]
      exact h.policers q
  · rintro ⟨hp, hc, hq⟩
    refine ⟨?_, fun r c => ?_, fun q => ?_⟩
    · rw [hports]
      exact hp
    · rw [hcounters]
      exact hc r c
    · rw [hpolicers]
      exact hq q

theorem ruleCounted_same_iff {s} (hok : (ruleCounted env rule s).1 = .success) :
    (∀ r c, cntrAttachments (ruleCounted env rule s).2.npu_log r c =
      cntrAttachments s.npu_log r c) ↔ rule.counter_id = .null := by
  constructor
  · intro h
    have hself := h rule.acl_id rule.counter_id
    rw [ruleCounted_attachments] at hself
    by_contra hnull
    rw [if_pos ⟨hok, hnull, rfl, rfl⟩] at hself
    omega
  · intro hnull r c
    rw [ruleCounted_attachments, if_neg fun hand => hand.2.1 hnull]
    omega

/-- **The end of a create**: when it fails, it leaves nothing behind if and only if the condition
holds. -/
theorem aclRuleActivate_left_iff (env) (tid) (p) (rule)
    (d) :
    ((aclRuleActivate env tid p rule d).1 ≠ .success →
      SideTablesSame d (aclRuleActivate env tid p rule d).2) ↔ InstalledTakenBack env rule d := by
  obtain ⟨hslog, hspol⟩ := ruleSampled_outside env _ d
  have hsampled : aclRuleActivate env tid p rule d =
      if (ruleSampled env rule d).1 ≠ .success then
        ((ruleSampled env rule d).1, aclRuleUninstall env p rule false (ruleSampled env rule d).2)
      else
        let y := aclRuleAttach env p rule (ruleSampled env rule d).2
        if y.1 ≠ .success then (y.1, aclRuleUninstall env p rule (aclRuleHasSample rule) y.2)
        else
          (.success, (aclRuleLink env tid p y.2).modTable tid fun table =>
            { table with rule_count := table.rule_count + 1 }) := rfl
  have hattach : aclRuleAttach env p rule (ruleSampled env rule d).2 =
      (let x := ruleCounted env rule (ruleSampled env rule d).2
      if x.1 ≠ .success then x
      else
        let y := if rule.policer_id ≠ .null then attachPolicerToAclRule p rule.policer_id x.2
          else (.success, x.2)
        if y.1 ≠ .success then y
        else if !env.avail .ruleTree then (.failure, y.2)
        else
          (.success, { y.2 with
            rule_tree := fun r => if r = rule.acl_id then some p else y.2.rule_tree r })) := rfl
  rw [hsampled]
  simp only [InstalledTakenBack]
  generalize ruleSampled _ _ d = s at *
  by_cases hs : s.1 = .success
  · rw [if_ok hs, if_ok hs, hattach]
    have hcsample := ruleCounted_sample env rule s.2
    have hcout := ruleCounted_outside env rule s.2
    have hcsame : (ruleCounted env rule s.2).1 = .success → _ := ruleCounted_same_iff
    have hcfail := ruleCounted_attachments env rule s.2
    have huninstall := sideTablesSame_uninstall_iff env p rule d s.2
    rw [hslog] at hcsame hcfail
    generalize ruleCounted _ _ _ = c at *
    have hcpol : c.2.policer_tree = d.policer_tree := by
      rw [hcout.policer_tree, hspol]
    by_cases hc : c.1 = .success
    · rw [if_ok hc]
      dsimp only
      rw [if_ok hc, attachPolicer_eq, hcpol]
      have hcounter := hcsame hc
      by_cases hmissing : rule.policer_id ≠ .null ∧ d.policer_tree rule.policer_id = none
      · -- the policer is not there
        simp only [if_pos hmissing]
        constructor
        · intro h
          obtain ⟨hback, hcnt, -⟩ := (huninstall c.2 hcsample).mp (h (by simp))
          exact ⟨hback, hcounter.mp hcnt⟩
        · rintro ⟨hback, hnull⟩ _
          exact (huninstall c.2 hcsample).mpr ⟨hback, hcounter.mpr hnull, fun q => by rw [hcpol]⟩
      simp only [if_neg hmissing]
      have hattached : (policerAttached p rule.policer_id c.2).sample = s.2.sample := by
        rw [← hcsample]
        unfold policerAttached
        split <;> rfl
      have hlog : (policerAttached p rule.policer_id c.2).npu_log = c.2.npu_log := by
        unfold policerAttached
        split <;> rfl
      have hpolicers : (∀ q, (policerAttached p rule.policer_id c.2).policer_tree q =
          d.policer_tree q) ↔ rule.policer_id = .null := by
        constructor
        · intro h
          by_contra hnull
          have hsome : (c.2.policer_tree rule.policer_id).isSome := by
            rw [hcpol, Option.isSome_iff_ne_none]
            exact fun hnone => hmissing ⟨hnull, hnone⟩
          have hself := h rule.policer_id
          rw [← hcpol] at hself
          exact policerAttached_ne hnull hsome hself
        · intro hnull q
          rw [policerAttached_apply, if_neg fun hand => hand.2 (hand.1.trans hnull), hcpol]
      have hiff := huninstall (policerAttached p rule.policer_id c.2) hattached
      rw [hlog] at hiff
      cases htree : env.avail .ruleTree with
      | false =>
        simp only [Bool.not_false, if_true]
        constructor
        · intro h
          obtain ⟨hback, hcnt, hq⟩ := hiff.mp (h (by simp))
          exact ⟨hback, hcounter.mp hcnt, hpolicers.mp hq⟩
        · rintro ⟨hback, hnull, hq⟩ _
          exact hiff.mpr ⟨hback, hcounter.mpr hnull, hpolicers.mpr hq⟩
      | true => simp
    · rw [if_pos hc]
      rw [if_pos hc, if_pos hc]
      have hsame : ∀ r cnt, cntrAttachments c.2.npu_log r cnt = cntrAttachments d.npu_log r cnt := by
        intro r cnt
        rw [hcfail, if_neg fun hand => hc hand.1]
        omega
      constructor
      · intro h
        exact ((huninstall c.2 hcsample).mp (h hc)).1
      · intro h _
        exact (huninstall c.2 hcsample).mpr ⟨h, hsame, fun q => by rw [hcpol]⟩
  · rw [if_pos hs, if_pos hs]
    obtain ⟨hports, hcounters, hpolicers⟩ := aclRuleUninstall_left _ rfl
    constructor
    · intro h
      have hleft := (h hs).ports
      rw [hports] at hleft
      exact hleft
    · intro h _
      refine ⟨?_, fun r c => ?_, fun q => ?_⟩
      · rw [hports]
        exact h
      · rw [hcounters, hslog]
      · rw [hpolicers, hspol]

/-! ## The whole of a create -/

namespace SideTablesSame

variable {db' db'' : AclDb}

theorem refl (db) : SideTablesSame db db := ⟨.refl _, fun _ _ => rfl, fun _ => rfl⟩

theorem trans (h : SideTablesSame db db') (h' : SideTablesSame db' db'') :
    SideTablesSame db db'' :=
  ⟨fun s key => (h'.ports s key).trans (h.ports s key),
    fun r c => (h'.counters r c).trans (h.counters r c),
    fun q => (h'.policers q).trans (h.policers q)⟩

theorem symm (h : SideTablesSame db db') : SideTablesSame db' db :=
  ⟨fun s key => (h.ports s key).symm, fun r c => (h.counters r c).symm,
    fun q => (h.policers q).symm⟩

theorem install (env : AclEnv) (tid : Oid) (table : AclTable) (rule : AclRule) (db : AclDb) :
    SideTablesSame db (installAclRule env tid table rule db).2 := by
  have hcall : ∀ d : AclDb, ∀ c, (∀ r cnt, c ≠ .attachCntr r cnt) →
      (∀ r cnt, c ≠ .detachCntr r cnt) → SideTablesSame d (d.call env c).2 := fun d c ha hd =>
    ⟨.refl _, fun r cnt => cntrAttachments_call env c d r cnt ha hd, fun _ => rfl⟩
  simp only [installAclRule]
  split
  · have htable := hcall db (.createTable tid) (by simp) (by simp)
    split
    · exact htable
    have hmod : SideTablesSame (db.call env (.createTable tid)).2
        ((db.call env (.createTable tid)).2.modTable tid fun table =>
          { table with in_npu := true }) := ⟨.refl _, fun _ _ => rfl, fun _ => rfl⟩
    exact (htable.trans hmod).trans (hcall _ (.createRule rule) (by simp) (by simp))
  · exact hcall db (.createRule rule) (by simp) (by simp)

end SideTablesSame

theorem RuleInstalled.create_eq (h : RuleInstalled env attrs db tid rule d) :
    aclRuleCreate env attrs db = aclRuleActivate env tid db.rules.next rule d := by
  obtain ⟨counts, table, rule₀, n, hcheck, hfields, rfl, htable, havail, hpop, hvalid, hindex, rfl,
    hinstall⟩ := h.made
  unfold aclRuleCreate
  rw [if_neg h.nonempty, hcheck]
  dsimp only
  rw [if_neg hfields, htable]
  dsimp only
  rw [if_neg (by simp [havail]), hpop]
  dsimp only
  rw [if_ok hvalid, hindex]
  dsimp only
  have hwrite : AclDb.modRule db.rules.next
      (fun _ => { rule₀ with acl_id := uoidCreate .aclEntry n })
      { db with rules := db.rules.alloc rule₀ } =
      { db with rules := db.rules.alloc { rule₀ with acl_id := uoidCreate .aclEntry n } } := by
    unfold AclDb.modRule
    rw [Heap.modify_alloc_next]
  rw [hwrite, hinstall, if_neg (by simp)]

theorem RuleInstalled.side (h : RuleInstalled env attrs db tid rule d) :
    SideTablesSame db d := by
  obtain ⟨counts, table, rule₀, n, -, -, -, -, -, -, -, -, -, hinstall⟩ := h.made
  have hside := SideTablesSame.install env tid table rule { db with rules := db.rules.alloc rule }
  rw [hinstall] at hside
  exact ⟨hside.ports, hside.counters, hside.policers⟩

/-- A create that does not install its rule fails and writes to no side table. -/
theorem aclRuleCreate_installs_or {attrs} {db} :
    ((aclRuleCreate env attrs db).1 ≠ .success ∧
      SideTablesSame db (aclRuleCreate env attrs db).2) ∨
      ∃ tid rule d, RuleInstalled env attrs db tid rule d := by
  generalize hx : aclRuleCreate _ _ _ = x
  have hfree : ∀ rule : AclRule, SideTablesSame db
      (aclRuleFree db.rules.next { db with rules := db.rules.alloc rule }) :=
    fun _ => ⟨.refl _, fun _ _ => rfl, fun _ => rfl⟩
  simp only [aclRuleCreate] at hx
  split at hx
  · exact .inl (hx ▸ ⟨by simp, .refl db⟩)
  rename_i hnonempty
  cases hcheck : aclCheckRuleAttributes 0 ⟨0, 0, .null⟩ attrs with
  | error rc =>
    rw [hcheck] at hx
    exact .inl (hx ▸ ⟨aclCheckRuleAttributes_error hcheck, .refl db⟩)
  | ok counts =>
    rw [hcheck] at hx
    dsimp only at hx
    split at hx
    · exact .inl (hx ▸ ⟨by simp, .refl db⟩)
    rename_i hfields
    cases htable : db.table_tree counts.acl_table_id with
    | none =>
      rw [htable] at hx
      exact .inl (hx ▸ ⟨by simp, .refl db⟩)
    | some table =>
      rw [htable] at hx
      dsimp only at hx
      split at hx
      · exact .inl (hx ▸ ⟨by simp, .refl db⟩)
      rename_i havail
      cases hpop : aclRulePopulate env table .zero attrs with
      | error rc =>
        rw [hpop] at hx
        exact .inl (hx ▸ ⟨aclRulePopulate_error hpop, hfree .zero⟩)
      | ok rule₀ =>
        rw [hpop] at hx
        dsimp only at hx
        split at hx
        next hvalid => exact .inl (hx ▸ ⟨hvalid, hfree rule₀⟩)
        rename_i hvalid
        cases hindex : allocateAclRuleIndex { db with rules := db.rules.alloc rule₀ } with
        | none =>
          rw [hindex] at hx
          exact .inl (hx ▸ ⟨by simp, hfree rule₀⟩)
        | some n =>
          rw [hindex] at hx
          dsimp only at hx
          have hwrite : AclDb.modRule db.rules.next
              (fun _ => { rule₀ with acl_id := uoidCreate .aclEntry n })
              { db with rules := db.rules.alloc rule₀ } = { db with
              rules := db.rules.alloc { rule₀ with acl_id := uoidCreate .aclEntry n } } := by
            unfold AclDb.modRule
            rw [Heap.modify_alloc_next]
          rw [hwrite] at hx
          have hside := SideTablesSame.install env counts.acl_table_id table
            { rule₀ with acl_id := uoidCreate .aclEntry n }
            { db with rules := db.rules.alloc { rule₀ with acl_id := uoidCreate .aclEntry n } }
          generalize hy : installAclRule _ _ _ _ _ = y at hx hside
          by_cases hok : y.1 = .success
          · refine .inr ⟨counts.acl_table_id, _, y.2, hnonempty, counts, table, rule₀, n, hcheck,
              hfields, rfl, htable, by simpa using havail, hpop, not_not.mp hvalid, hindex, rfl, ?_⟩
            rw [hy, ← hok]
          rw [if_pos hok] at hx
          refine .inl ?_
          rw [← hx]
          exact ⟨hok, hside.ports, hside.counters, hside.policers⟩

/-- A failed create leaves nothing behind if it leaves nothing in the side tables. -/
theorem NothingLeft.of_side
    (hrules : RulesOk db) (hpolicers : PolicersBelow db) (hx : aclRuleCreate env attrs db = x)
    (hfail : x.1 ≠ .success) (hside : SideTablesSame db x.2) : NothingLeft db x.2 := by
  have htrees : (∀ r, x.2.rule_tree r = db.rule_tree r) ∧
      (∀ t, x.2.listsOf t = db.listsOf t) ∧ x.2.rules.get db.rules.next = none := by
    rcases aclRuleCreate_cases hx with ⟨-, hs⟩ | ⟨-, rule, hs⟩ | ⟨hok, -⟩
    · exact ⟨hs.rule_tree, hs.lists, (hs.rules _).trans (by simp)⟩
    · refine ⟨fun r => (hs.same.rule_tree r).trans (by simp),
        fun t => (hs.same.lists t).trans (by simp), (hs.same.rules _).trans (by simp)⟩
    · exact absurd hok hfail
  obtain ⟨htree, hlists, hfreed⟩ := htrees
  refine ⟨htree, hlists, hside.counters, hside.policers, hside.ports, hfreed, fun t l hl => ?_,
    fun q l hl hin => ?_, fun r hr => ?_⟩
  · rw [hlists] at hl
    exact hrules.next_not_mem hl
  · rw [hside.policers] at hl
    exact absurd (hpolicers.below q l hl _ hin) (Nat.lt_irrefl _)
  · rw [htree] at hr
    obtain ⟨rule, hget, -⟩ := hrules.tree r _ hr
    exact absurd hget (by simp)

/-- A rule without ports and counter leaves nothing behind, if there is memory for it in the tree
or no policer to leave it on. -/
theorem InstalledTakenBack.of_bare
    (hsample : aclRuleHasSample rule = false) (hcounter : rule.counter_id = .null)
    (hpolicer : env.avail .ruleTree = true ∨ rule.policer_id = .null) :
    InstalledTakenBack env rule d := by
  have hsampled : ruleSampled env rule d = (.success, d) := by
    unfold ruleSampled
    rw [if_neg (by simp [hsample])]
  have hunsampled : ruleUnsampled env rule d = d := by
    unfold ruleUnsampled
    rw [if_neg (by simp [hsample])]
  have hcounted : ruleCounted env rule d = (.success, d) := by
    unfold ruleCounted
    rw [if_ok hcounter]
  have hports : SamePorts d.sample d.sample := .refl _
  simp only [InstalledTakenBack, hsampled, hunsampled, hcounted]
  rw [if_neg (by simp), if_neg (by simp)]
  split
  · exact ⟨hports, hcounter⟩
  split
  next htree =>
    rcases hpolicer with hmem | hnull
    · rw [htree] at hmem
      cases hmem
    · exact ⟨hports, hcounter, hnull⟩
  · trivial

end OpxSai
