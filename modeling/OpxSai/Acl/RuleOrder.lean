import OpxSai.Acl.RuleCases
import OpxSai.Lib.Run

/-!
# The rules of an ACL table

* `RulesOk` — tree, rules and lists agree, after any run whatsoever: the list of a table holds the
  rules of the tree that name it, each once;
* `TableListsOk` — and besides, each list is sorted by priority and counted;
* `OrderOpOk` — the condition on a call. The priority is the key of the list and an attribute that
  can be set: the node stays where it is, so a set has to leave the keys in order;
* `tableListsOk_of_run` — the main result.
-/

namespace OpxSai

open AclDb

variable {rule : AclRule} {p : Ptr} {env : AclEnv} {t acl_id : Oid} {attrs : List AclAttr}
variable {l l' : List Ptr × BitVec 32} {old : AclRule} {c : AclRuleOpCall}

/-! ## Tree, rules and lists -/

variable {db db' : AclDb}

structure RulesOk (db : AclDb) : Prop where
  live : ∀ p rule, db.rules.get p = some rule → db.rule_tree rule.acl_id = some p
  tree : ∀ r p, db.rule_tree r = some p → ∃ rule, db.rules.get p = some rule ∧ rule.acl_id = r
  typed : ∀ p rule, db.rules.get p = some rule → rule.acl_id.type = .aclEntry
  tabled : ∀ p rule, db.rules.get p = some rule → (db.listsOf rule.table_id).isSome
  listed : ∀ t l, db.listsOf t = some l → ∀ p, p ∈ l.1 ↔
    ∃ rule, db.rules.get p = some rule ∧ rule.table_id = t
  nodup : ∀ t l, db.listsOf t = some l → l.1.Nodup

namespace RulesOk

theorem congr (h : RulesOk db) (hrules : ∀ p, db'.rules.get p = db.rules.get p)
    (htree : ∀ r, db'.rule_tree r = db.rule_tree r) (hlists : ∀ t, db'.listsOf t = db.listsOf t) :
    RulesOk db' := by
  refine ⟨fun p rule hp => ?_, fun r p hr => ?_, fun p rule hp => ?_, fun p rule hp => ?_,
    fun t l hl p => ?_, fun t l hl => ?_⟩
  · rw [hrules] at hp
    rw [htree]
    exact h.live p _ hp
  · rw [htree] at hr
    rw [hrules]
    exact h.tree r p hr
  · rw [hrules] at hp
    exact h.typed p _ hp
  · rw [hrules] at hp
    rw [hlists]
    exact h.tabled p _ hp
  · rw [hlists] at hl
    rw [hrules]
    exact h.listed t l hl p
  · rw [hlists] at hl
    exact h.nodup t l hl

theorem same (h : RulesOk db) (hs : SameAcl db db') : RulesOk db' :=
  h.congr hs.rules hs.rule_tree hs.lists

theorem find (h : RulesOk db) (hp : db.rules.get p = some rule) :
    aclRuleFind rule.acl_id db = some (p, rule) := by
  unfold aclRuleFind
  rw [h.live p _ hp]
  dsimp only
  rw [hp]
  rfl

theorem id_of_find (h : RulesOk db) {r} (hf : aclRuleFind r db = some (p, rule)) : rule.acl_id = r := by
  obtain ⟨hr, hp⟩ := aclRuleFind_some hf
  obtain ⟨other, hother, rfl⟩ := h.tree r p hr
  rw [hp] at hother
  obtain rfl := Option.some.inj hother
  rfl

theorem next_not_mem (h : RulesOk db) (hl : db.listsOf t = some l) :
    db.rules.next ∉ l.1 := by
  intro hin
  obtain ⟨rule, hget, -⟩ := (h.listed t l hl _).mp hin
  exact absurd hget (by simp)

theorem created_list (hc : RuleCreated env attrs db db' rule) (hl : db'.listsOf t = some l') :
    ∃ l, db.listsOf t = some l ∧
      ((t = rule.table_id ∧ l' = (env.dll_insert.insert (aclRulePriorityCompare db') db.rules.next
        l.1, l.2 + 1)) ∨ (t ≠ rule.table_id ∧ l' = l)) := by
  rw [hc.lists] at hl
  by_cases ht : t = rule.table_id
  · rw [if_pos ht] at hl
    obtain ⟨l, hold, rfl⟩ := Option.map_eq_some_iff.mp hl
    exact ⟨l, hold, .inl ⟨ht, rfl⟩⟩
  · rw [if_neg ht] at hl
    exact ⟨l', hl, .inr ⟨ht, rfl⟩⟩

theorem created (h : RulesOk db) (hc : RuleCreated env attrs db db' rule) : RulesOk db':= by
  have hcase : ∀ p r, db'.rules.get p = some r →
      (p = db.rules.next ∧ r = rule) ∨ (p ≠ db.rules.next ∧ db.rules.get p = some r) := by
    intro p r hp
    rw [hc.rules] at hp
    by_cases hq : p = db.rules.next
    · rw [if_pos hq] at hp
      exact .inl ⟨hq, (Option.some.inj hp).symm⟩
    · rw [if_neg hq] at hp
      exact .inr ⟨hq, hp⟩
  have hold : ∀ p r, db.rules.get p = some r → db'.rules.get p = some r := by
    intro p r hp
    rw [hc.rules, if_neg (Heap.ne_next_of_get hp)]
    exact hp
  -- the id of the new rule was that of none
  have hfresh : ∀ p r, db.rules.get p = some r → r.acl_id ≠ rule.acl_id := by
    intro p r hp heq
    have hfind := h.find hp
    rw [heq, hc.unused] at hfind
    exact absurd hfind (by simp)
  have hsome : ∀ t, (db'.listsOf t).isSome = (db.listsOf t).isSome := by
    intro t
    rw [hc.lists]
    split
    · rw [Option.isSome_map]
    · rfl
  refine ⟨fun p r hp => ?_, fun r p hr => ?_, fun p r hp => ?_, fun p r hp => ?_,
    fun t l hl p => ?_, fun t l hl => ?_⟩
  · rw [hc.rule_tree]
    rcases hcase p r hp with ⟨rfl, rfl⟩ | ⟨-, hp⟩
    · rw [if_pos rfl]
    · rw [if_neg (hfresh p r hp)]
      exact h.live p r hp
  · rw [hc.rule_tree] at hr
    split at hr
    next heq =>
      obtain rfl := Option.some.inj hr
      exact ⟨rule, by rw [hc.rules, if_pos rfl], heq.symm⟩
    · obtain ⟨other, hget, hid⟩ := h.tree r p hr
      exact ⟨other, hold p other hget, hid⟩
  · rcases hcase p r hp with ⟨-, rfl⟩ | ⟨-, hp⟩
    · exact hc.type
    · exact h.typed p r hp
  · rw [hsome]
    rcases hcase p r hp with ⟨-, rfl⟩ | ⟨-, hp⟩
    · have htable := hc.attrs.table
      unfold AclDb.listsOf
      rw [Option.isSome_map]
      exact htable
    · exact h.tabled p r hp
  · obtain ⟨l₀, hl₀, hcase'⟩ := created_list hc hl
    rw [hc.rules]
    rcases hcase' with ⟨rfl, rfl⟩ | ⟨hne, rfl⟩
    · rw [env.dll_insert.mem, h.listed _ l₀ hl₀]
      by_cases hp : p = db.rules.next
      · simp [hp]
      · simp [hp]
    rw [h.listed t l hl₀]
    by_cases hp : p = db.rules.next
    · subst hp
      simp only [Heap.get_next, if_true]
      refine iff_of_false (by simp) ?_
      rintro ⟨r, hr, htid⟩
      obtain rfl := Option.some.inj hr
      exact hne htid.symm
    · rw [if_neg hp]
  · obtain ⟨l₀, hl₀, hcase'⟩ := created_list hc hl
    rcases hcase' with ⟨rfl, rfl⟩ | ⟨hne, rfl⟩
    · exact env.dll_insert.nodup _ (h.next_not_mem hl₀) (h.nodup _ l₀ hl₀)
    · exact h.nodup t l hl₀

theorem deleted_list (hd : RuleDeleted env acl_id db db' p rule) (hl : db'.listsOf t = some l') :
    ∃ l, db.listsOf t = some l ∧
      ((t = rule.table_id ∧ p ∈ l.1 ∧ l' = (l.1.erase p, l.2 - 1)) ∨ (t ≠ rule.table_id ∧ l' = l)):= by
  rw [hd.lists] at hl
  by_cases ht : t = rule.table_id
  · rw [if_pos ht] at hl
    obtain ⟨l, hold, rfl⟩ := Option.map_eq_some_iff.mp hl
    obtain ⟨table, htable, hin⟩ := hd.listed
    have heq : l.1 = table.rule_head := by
      unfold AclDb.listsOf at hold
      rw [ht, htable] at hold
      obtain rfl := Option.some.inj hold
      rfl
    rw [← heq] at hin
    refine ⟨l, hold, .inl ⟨ht, hin, ?_⟩⟩
    unfold aclDllRemove
    rw [if_pos hin]
  · rw [if_neg ht] at hl
    exact ⟨l', hl, .inr ⟨ht, rfl⟩⟩

theorem deleted (h : RulesOk db) (hd : RuleDeleted env acl_id db db' p rule) : RulesOk db':= by
  have hp : db.rules.get p = some rule := (aclRuleFind_some hd.find).2
  have hcase : ∀ q r, db'.rules.get q = some r → q ≠ p ∧ db.rules.get q = some r := by
    intro q r hq
    rw [hd.rules] at hq
    split at hq
    · exact absurd hq (by simp)
    next hne => exact ⟨hne, hq⟩
  have hsome : ∀ t, (db'.listsOf t).isSome = (db.listsOf t).isSome := by
    intro t
    rw [hd.lists]
    split
    · rw [Option.isSome_map]
    · rfl
  refine ⟨fun q r hq => ?_, fun r q hr => ?_, fun q r hq => ?_, fun q r hq => ?_,
    fun t l hl q => ?_, fun t l hl => ?_⟩
  · obtain ⟨hne, hq⟩ := hcase q r hq
    rw [hd.rule_tree, if_neg]
    · exact h.live q r hq
    intro heq
    have hlive := h.live q r hq
    rw [heq, h.live p _ hp] at hlive
    exact hne (Option.some.inj hlive).symm
  · rw [hd.rule_tree] at hr
    split at hr
    · exact absurd hr (by simp)
    rename_i hne
    obtain ⟨other, hget, hid⟩ := h.tree r q hr
    refine ⟨other, ?_, hid⟩
    rw [hd.rules, if_neg]
    · exact hget
    rintro rfl
    rw [hp] at hget
    obtain rfl := Option.some.inj hget
    exact hne hid.symm
  · exact h.typed q r (hcase q r hq).2
  · rw [hsome]
    exact h.tabled q r (hcase q r hq).2
  · obtain ⟨l₀, hl₀, hcase'⟩ := deleted_list hd hl
    rw [hd.rules]
    rcases hcase' with ⟨rfl, -, rfl⟩ | ⟨hne, rfl⟩
    · rw [(h.nodup _ _ hl₀).mem_erase_iff, h.listed _ _ hl₀]
      by_cases hq : q = p
      · simp [hq]
      · simp [hq]
    rw [h.listed t l hl₀]
    by_cases hq : q = p
    · subst hq
      rw [if_pos rfl, hp]
      refine iff_of_false ?_ (by simp)
      rintro ⟨r, hr, htid⟩
      obtain rfl := Option.some.inj hr
      exact hne htid.symm
    · rw [if_neg hq]
  · obtain ⟨l₀, hl₀, hcase'⟩ := deleted_list hd hl
    rcases hcase' with ⟨rfl, -, rfl⟩ | ⟨hne, rfl⟩
    · exact (h.nodup _ _ hl₀).erase p
    · exact h.nodup t l hl₀

theorem rewritten (h : RulesOk db) (hp : db.rules.get p = some old)
    (hid : rule.acl_id = old.acl_id) (htid : rule.table_id = old.table_id)
    (hw : RuleRewritten db db' p rule) : RulesOk db' := by
  -- at every address, id and table are the same
  have hcase : ∀ q r, db'.rules.get q = some r →
      ∃ r₀, db.rules.get q = some r₀ ∧ r.acl_id = r₀.acl_id ∧ r.table_id = r₀.table_id := by
    intro q r hq
    rw [hw.rules] at hq
    split at hq
    next heq =>
      obtain rfl := Option.some.inj hq
      exact ⟨old, heq ▸ hp, hid, htid⟩
    · exact ⟨r, hq, rfl, rfl⟩
  have hback : ∀ q r₀, db.rules.get q = some r₀ →
      ∃ r, db'.rules.get q = some r ∧ r.acl_id = r₀.acl_id ∧ r.table_id = r₀.table_id := by
    intro q r₀ hq
    rw [hw.rules]
    by_cases heq : q = p
    · subst heq
      rw [hp] at hq
      obtain rfl := Option.some.inj hq
      exact ⟨rule, if_pos rfl, hid, htid⟩
    · exact ⟨r₀, (if_neg heq).trans hq, rfl, rfl⟩
  refine ⟨fun q r hq => ?_, fun r q hr => ?_, fun q r hq => ?_, fun q r hq => ?_,
    fun t l hl q => ?_, fun t l hl => ?_⟩
  · obtain ⟨r₀, hr₀, hi, -⟩ := hcase q r hq
    rw [hw.rule_tree, hi]
    exact h.live q _ hr₀
  · rw [hw.rule_tree] at hr
    obtain ⟨r₀, hr₀, hi₀⟩ := h.tree r q hr
    obtain ⟨r', hr', hi, -⟩ := hback q r₀ hr₀
    exact ⟨r', hr', hi.trans hi₀⟩
  · obtain ⟨r₀, hr₀, hi, -⟩ := hcase q r hq
    rw [hi]
    exact h.typed q _ hr₀
  · obtain ⟨r₀, hr₀, -, ht⟩ := hcase q r hq
    rw [hw.lists, ht]
    exact h.tabled q _ hr₀
  · rw [hw.lists] at hl
    rw [h.listed t l hl]
    constructor
    · rintro ⟨r₀, hr₀, ht₀⟩
      obtain ⟨r', hr', -, ht⟩ := hback q r₀ hr₀
      exact ⟨r', hr', ht.trans ht₀⟩
    · rintro ⟨r', hr', ht'⟩
      obtain ⟨r₀, hr₀, -, ht⟩ := hcase q r' hr'
      exact ⟨r₀, hr₀, ht.symm.trans ht'⟩
  · rw [hw.lists] at hl
    exact h.nodup t l hl

theorem step (h : RulesOk db) : RulesOk (aclRuleStep c db) := by
  cases aclRuleStep_does c db with
  | same hs => exact h.same hs
  | @stuck _ _ rule hstuck =>
    have hattached : RulesOk (policerAttached db.rules.next rule.policer_id db) :=
      h.congr (by simp) (by simp) (by simp)
    exact hattached.same hstuck.same
  | created hc => exact h.created hc
  | @moved env _ p rule hm =>
    have hmoved : RulesOk (db.modPolicer rule.policer_id fun l => aclDllRemove env p l ++ [p]) :=
      h.congr (fun _ => rfl) (fun _ => rfl) (fun _ => rfl)
    exact hmoved.same hm.same
  | deleted hd => exact h.deleted hd
  | rewritten hupd hw =>
    refine h.rewritten (aclRuleFind_some hupd.find).2 ?_ ?_ hw
    · exact hupd.ids.1
    · exact hupd.ids.2.1

theorem of_run (h : RulesOk db) {ok : AclRuleOpCall → AclDb → Prop}
    (hrun : Run aclRuleStep ok db db') : RulesOk db' :=
  hrun.induct (fun c _ hs _ => hs.step) h

end RulesOk

/-! ## Order and count -/

theorem aclRulePriorityCompare_eq (db : AclDb) :
    aclRulePriorityCompare db =
      fun p q => compare (rulePriority db p).toNat (rulePriority db q).toNat := by
  funext p q
  unfold aclRulePriorityCompare
  split
  next hlt => rw [Nat.compare_eq_gt.mpr hlt]
  rename_i hge
  split
  next hlt => rw [Nat.compare_eq_lt.mpr hlt]
  rename_i hle
  have heq : (rulePriority db p).toNat = (rulePriority db q).toNat := by omega
  rw [Nat.compare_eq_eq.mpr heq]

structure ListOrdered (db : AclDb) (l : List Ptr × BitVec 32) : Prop where
  sorted : l.1.Pairwise fun p q => (rulePriority db p).toNat ≤ (rulePriority db q).toNat
  count : l.2.toNat = l.1.length

def ListsOrdered (db : AclDb) : Prop := ∀ t l, db.listsOf t = some l → ListOrdered db l

theorem ListOrdered.congr (h : ListOrdered db l) (hsame : ∀ p ∈ l.1, rulePriority db' p = rulePriority db p) :
    ListOrdered db' l := by
  refine ⟨h.sorted.imp_of_mem fun {p q} hp hq hle => ?_, h.count⟩
  rw [hsame p hp, hsame q hq]
  exact hle

theorem rulePriority_congr (h : db'.rules.get p = db.rules.get p) :
    rulePriority db' p = rulePriority db p := by
  unfold rulePriority
  rw [h]

namespace ListsOrdered

theorem congr (h : ListsOrdered db) (hrules : ∀ p, db'.rules.get p = db.rules.get p)
    (hlists : ∀ t, db'.listsOf t = db.listsOf t) : ListsOrdered db' := by
  intro t l hl
  rw [hlists] at hl
  exact (h t l hl).congr fun p _ => rulePriority_congr (hrules p)

theorem same (h : ListsOrdered db) (hs : SameAcl db db') : ListsOrdered db' :=
  h.congr hs.rules hs.lists

theorem created (h : ListsOrdered db) (hok : RulesOk db) (hc : RuleCreated env attrs db db' rule)
    (hroom : ∀ l, db.listsOf rule.table_id = some l → l.1.length + 1 < 2 ^ 32) :
    ListsOrdered db' := by
  intro t l' hl'
  obtain ⟨l, hl, hcase⟩ := RulesOk.created_list hc hl'
  have hnew := hok.next_not_mem hl
  -- the rules that are on the list already have the priorities they had
  have hold : ListOrdered db' l := by
    refine (h t l hl).congr fun p hp => rulePriority_congr ?_
    rw [hc.rules, if_neg]
    rintro rfl
    exact hnew hp
  rcases hcase with ⟨rfl, rfl⟩ | ⟨-, rfl⟩
  · refine ⟨?_, ?_⟩
    · rw [aclRulePriorityCompare_eq]
      exact env.dll_insert.sorted _ _ _ hold.sorted
    · have hlt := hroom l hl
      have hcount := hold.count
      show (l.2 + 1).toNat = (env.dll_insert.insert _ _ l.1).length
      rw [env.dll_insert.length, BitVec.toNat_add, hcount]
      exact Nat.mod_eq_of_lt hlt
  · exact hold

theorem deleted (h : ListsOrdered db) (hok : RulesOk db) (hd : RuleDeleted env acl_id db db' p rule) :
    ListsOrdered db' := by
  intro t l' hl'
  obtain ⟨l, hl, hcase⟩ := RulesOk.deleted_list hd hl'
  have hold := h t l hl
  have hother : ∀ q, q ≠ p → rulePriority db' q = rulePriority db q := by
    intro q hne
    refine rulePriority_congr ?_
    rw [hd.rules, if_neg hne]
  rcases hcase with ⟨-, hin, rfl⟩ | ⟨hne, rfl⟩
  · have hrest : ListOrdered db (l.1.erase p, l.2 - 1) := by
      refine ⟨hold.sorted.sublist List.erase_sublist, ?_⟩
      have hpos : 0 < l.1.length := List.length_pos_of_mem hin
      have hcount := hold.count
      show (l.2 - 1).toNat = (l.1.erase p).length
      rw [List.length_erase_of_mem hin]
      bv_omega
    refine hrest.congr fun q hq => hother q ?_
    rintro rfl
    exact (hok.nodup t l hl).not_mem_erase hq
  · refine hold.congr fun q hq => hother q ?_
    rintro rfl
    obtain ⟨r, hr, htid⟩ := (hok.listed t l' hl q).mp hq
    have hp := (aclRuleFind_some hd.find).2
    rw [hp] at hr
    obtain rfl := Option.some.inj hr
    exact hne htid.symm

theorem rewritten (h : ListsOrdered db) (hok : RulesOk db)
    (hp : db.rules.get p = some old) (hw : RuleRewritten db db' p rule)
    (hkeys : ∀ l, db.listsOf old.table_id = some l →
      l.1.Pairwise fun q r => (rulePriority db' q).toNat ≤ (rulePriority db' r).toNat) :
    ListsOrdered db' := by
  intro t l hl
  rw [hw.lists] at hl
  by_cases ht : t = old.table_id
  · subst ht
    exact ⟨hkeys l hl, (h _ l hl).count⟩
  refine (h t l hl).congr fun q hq => rulePriority_congr ?_
  rw [hw.rules, if_neg]
  rintro rfl
  obtain ⟨r, hr, htid⟩ := (hok.listed t l hl q).mp hq
  rw [hp] at hr
  obtain rfl := Option.some.inj hr
  exact ht htid.symm

end ListsOrdered

def priorityWith (db : AclDb) (p : Ptr) (priority : BitVec 32) (q : Ptr) : Nat :=
  if q = p then priority.toNat else (rulePriority db q).toNat

/-- The condition on a call. A create has to leave the count below what 32 bits hold. A set that
reaches a rule with a priority has to leave the keys of its table in the order they are in. -/
def OrderOpOk (c : AclRuleOpCall) (db : AclDb) : Prop :=
  match c.op with
  | .create attr_list => ∀ table, db.table_tree (namedTable .null attr_list) = some table →
      table.rule_head.length + 1 < 2 ^ 32
  | .delete _ => True
  | .set acl_id attr => attr.id = .priority → ∀ p present table modify,
      aclRuleFind acl_id db = some (p, present) →
      db.table_tree present.table_id = some table →
      c.env.avail .scanRule = true →
      aclRuleModify c.env table present attr = .ok modify →
      SetReachesNpu c.env modify present db.npu_log →
      table.rule_head.Pairwise fun q r =>
        priorityWith db p attr.value.data.getU32 q ≤ priorityWith db p attr.value.data.getU32 r

theorem RuleOfAttrs.named {attr_list} {db}
    (h : RuleOfAttrs env attr_list db rule) : rule.table_id = namedTable .null attr_list := by
  obtain ⟨counts, table, rule₀, hcheck, -, hpop, hrule⟩ := h.made
  have hids : ∀ a, AclRule.zero.actionId a = .null := by
    intro a
    cases a <;> rfl
  rw [hrule]
  exact (aclRulePopulate_ok hpop rfl hids (aclCheckRuleAttributes_ok hcheck).1).2.1

theorem aclRuleModify_priority {table} {present modify}
    {attr} (h : aclRuleModify env table present attr = .ok modify) :
    modify.acl_rule_priority =
      if attr.id = .priority then attr.value.data.getU32 else present.acl_rule_priority := by
  unfold aclRuleModify at h
  split at h
  · exact absurd h (by simp)
  rename_i rule hpop
  obtain rfl := Except.ok.inj h
  by_cases hid : attr.id = .priority
  · rw [if_ok hid, if_pos hid]
    unfold aclRulePopulate at hpop
    split at hpop
    · exact absurd hpop (by simp)
    simp only [aclRulePopulateAttrs, aclRulePopulateAttr, hid] at hpop
    obtain rfl := Except.ok.inj hpop
    split <;> rfl
  · rw [if_pos hid, if_neg hid]

/-! ## Runs -/

theorem ListsOrdered.step (h : ListsOrdered db) (hok : RulesOk db) (hop : OrderOpOk c db) :
    ListsOrdered (aclRuleStep c db) := by
  cases aclRuleStep_does c db with
  | same hs => exact h.same hs
  | @stuck _ _ rule hstuck =>
    have hattached : ListsOrdered (policerAttached db.rules.next rule.policer_id db) :=
      h.congr (by simp) (by simp)
    exact hattached.same hstuck.same
  | created hc =>
    refine h.created hok hc fun l hl => ?_
    obtain ⟨table, htable, rfl⟩ := Option.map_eq_some_iff.mp hl
    rw [hc.attrs.named] at htable
    exact hop table htable
  | @moved env _ p rule hm =>
    have hmoved : ListsOrdered (db.modPolicer rule.policer_id fun l => aclDllRemove env p l ++ [p]) :=
      h.congr (fun _ => rfl) (fun _ => rfl)
    exact hmoved.same hm.same
  | deleted hd => exact h.deleted hok hd
  | @rewritten env acl_id _ attr p present modify _ hupd hw =>
    obtain ⟨table, htable, hmodify⟩ := hupd.made
    have hp := (aclRuleFind_some hupd.find).2
    refine h.rewritten hok hp hw fun l hl => ?_
    have hlist : l.1 = table.rule_head := by
      unfold AclDb.listsOf at hl
      rw [htable] at hl
      obtain rfl := Option.some.inj hl
      rfl
    -- the key of the rule is that of the scan rule
    have hself : (rulePriority (aclRuleStep ⟨env, .set acl_id attr⟩ db) p) =
        modify.acl_rule_priority := by
      unfold rulePriority
      rw [show (aclRuleStep ⟨env, .set acl_id attr⟩ db).rules.get p = _ from hw.rules p, if_pos rfl]
      exact hupd.ids.2.2.1
    have hother : ∀ q, q ≠ p → rulePriority (aclRuleStep ⟨env, .set acl_id attr⟩ db) q =
        rulePriority db q := by
      intro q hne
      refine rulePriority_congr ?_
      rw [show (aclRuleStep ⟨env, .set acl_id attr⟩ db).rules.get q = _ from hw.rules q, if_neg hne]
    by_cases hid : attr.id = .priority
    · rw [aclRuleModify_priority hmodify, if_pos hid] at hself
      have hkey : ∀ q, (rulePriority (aclRuleStep ⟨env, .set acl_id attr⟩ db) q).toNat =
          priorityWith db p attr.value.data.getU32 q := by
        intro q
        unfold priorityWith
        split
        next heq => rw [heq, hself]
        next hne => rw [hother q hne]
      rw [hlist]
      simp only [hkey]
      exact hop hid p present table modify hupd.find htable hupd.scan hmodify hupd.reaches
    · rw [aclRuleModify_priority hmodify, if_neg hid] at hself
      refine (h _ l hl).sorted.imp_of_mem fun {q r} _ _ hle => ?_
      have hkey : ∀ q, rulePriority (aclRuleStep ⟨env, .set acl_id attr⟩ db) q =
          rulePriority db q := by
        intro q
        by_cases heq : q = p
        · rw [heq, hself]
          unfold rulePriority
          rw [hp]
        · exact hother q heq
      rw [hkey, hkey]
      exact hle

/-- The list of a table, as it has to be: sorted, the rules of the tree that name the table, each
once, and counted. -/
structure TableListOk (db : AclDb) (t : Oid) (table : AclTable) : Prop where
  sorted : table.rule_head.Pairwise fun p q =>
    (rulePriority db p).toNat ≤ (rulePriority db q).toNat
  rules : ∀ p, p ∈ table.rule_head ↔
    ∃ r rule, db.rule_tree r = some p ∧ db.rules.get p = some rule ∧ rule.table_id = t
  once : table.rule_head.Nodup
  count : table.rule_count.toNat = table.rule_head.length

def TableListsOk (db : AclDb) : Prop :=
  ∀ t table, db.table_tree t = some table → TableListOk db t table

structure NoRules (db : AclDb) : Prop where
  rules : ∀ p, db.rules.get p = none
  tree : ∀ r, db.rule_tree r = none
  lists : ∀ t l, db.listsOf t = some l → l = ([], 0)

theorem RulesOk.empty (h : NoRules db) : RulesOk db := by
  refine ⟨fun p rule hp => ?_, fun r p hr => ?_, fun p rule hp => ?_, fun p rule hp => ?_,
    fun t l hl p => ?_, fun t l hl => ?_⟩
  · exact absurd hp (by simp [h.rules])
  · exact absurd hr (by simp [h.tree])
  · exact absurd hp (by simp [h.rules])
  · exact absurd hp (by simp [h.rules])
  · rw [h.lists t l hl]
    simp [h.rules]
  · rw [h.lists t l hl]
    exact List.nodup_nil

theorem ListsOrdered.empty (h : NoRules db) : ListsOrdered db := by
  intro t l hl
  rw [h.lists t l hl]
  exact ⟨.nil, rfl⟩

theorem TableListsOk.of_ordered (hok : RulesOk db) (h : ListsOrdered db) : TableListsOk db := by
  intro t table htable
  have hl : db.listsOf t = some (table.rule_head, table.rule_count) := by
    unfold AclDb.listsOf
    rw [htable]
    rfl
  have hlist := h t _ hl
  refine ⟨hlist.sorted, fun p => ?_, hok.nodup t _ hl, hlist.count⟩
  rw [hok.listed t _ hl p]
  constructor
  · rintro ⟨rule, hp, htid⟩
    exact ⟨rule.acl_id, rule, hok.live p _ hp, hp, htid⟩
  · rintro ⟨-, rule, -, hp, htid⟩
    exact ⟨rule, hp, htid⟩

/-- **Rules stay ordered, indexed and counted**: in every state that calls which meet the condition
lead to from a state without rules. -/
theorem tableListsOk_of_run {db₀ db : AclDb} (hempty : NoRules db₀)
    (hrun : Run aclRuleStep OrderOpOk db₀ db) : TableListsOk db := by
  have hboth : RulesOk db ∧ ListsOrdered db :=
    hrun.induct (P := fun db => RulesOk db ∧ ListsOrdered db)
      (fun c _ h hop => ⟨h.1.step, h.2.step h.1 hop⟩) ⟨.empty hempty, .empty hempty⟩
  exact .of_ordered hboth.1 hboth.2

def prioritisedRule (tid : Oid) (priority : BitVec 32) : List AclAttr :=
  [⟨.tableId, ⟨false, .oid tid, .zero⟩⟩, ⟨.priority, ⟨false, .u32 priority, .zero⟩⟩,
    ⟨.field (.other 0), ⟨true, .u8 1, .zero⟩⟩]

def AclDb.oneTable (tid : Oid) (policers : Oid → Bool) : AclDb :=
  .initial (fun t => if t = tid then some ⟨.ingress, 0, [], 0, false, []⟩ else none)
    (fun _ => none) policers .empty

theorem NoRules.oneTable (tid : Oid) (policers : Oid → Bool) :
    NoRules (.oneTable tid policers) := by
  refine ⟨fun _ => rfl, fun _ => rfl, fun t l hl => ?_⟩
  simp only [AclDb.listsOf, AclDb.oneTable, AclDb.initial] at hl
  split at hl
  · exact (Option.some.inj hl).symm
  · exact absurd hl (by simp)

theorem tableListsOk_of_run_priority :
    let env := AclEnv.good (fun _ => .invalid) []
    let tid := uoidCreate .aclTable 1
    let first := uoidCreate .aclEntry 0
    let attr : AclAttr := ⟨.priority, ⟨false, .u32 15, .zero⟩⟩
    let db₁ := aclRuleStep ⟨env, .create (prioritisedRule tid 10)⟩ (.oneTable tid fun _ => false)
    let db₂ := aclRuleStep ⟨env, .create (prioritisedRule tid 20)⟩ db₁
    let db₃ := aclRuleStep ⟨env, .set first attr⟩ db₂
    let db₄ := aclRuleStep ⟨env, .delete first⟩ db₃
    (db₃.table_tree tid).map (·.rule_head) = some [1, 2] ∧ rulePriority db₃ 1 = 15 ∧
      TableListsOk db₃ ∧ (db₄.table_tree tid).map (·.rule_head) = some [2] ∧
      TableListsOk db₄ := by
  intro env tid first attr db₁ db₂ db₃ db₄
  have hroom : ∀ d : AclDb, ∀ n, (d.table_tree tid).map (·.rule_head.length) = some n →
      n + 1 < 2 ^ 32 → ∀ table, d.table_tree tid = some table →
      table.rule_head.length + 1 < 2 ^ 32 := by
    intro d n hlen hlt table htable
    rw [htable] at hlen
    obtain rfl := Option.some.inj hlen
    exact hlt
  have hrun₁ : Run aclRuleStep OrderOpOk (.oneTable tid fun _ => false) db₁ :=
    .snoc _ (.nil _) (hroom (.oneTable tid fun _ => false) 0 (by decide) (by decide))
  have hrun₂ : Run aclRuleStep OrderOpOk (.oneTable tid fun _ => false) db₂ :=
    .snoc _ hrun₁ (hroom db₁ 1 (by decide) (by decide))
  have hset : OrderOpOk ⟨env, .set first attr⟩ db₂ := by
    intro _ p present table modify hfind htable _ _ _
    have hp : (aclRuleFind first db₂).map (·.1) = some 1 := by decide
    have htid : (aclRuleFind first db₂).map (·.2.table_id) = some tid := by decide
    have hhead : (db₂.table_tree tid).map (·.rule_head) = some [1, 2] := by decide
    rw [hfind] at hp htid
    obtain rfl := Option.some.inj hp
    have htid' : present.table_id = tid := Option.some.inj htid
    rw [htid'] at htable
    rw [htable] at hhead
    have hlist : table.rule_head = [1, 2] := Option.some.inj hhead
    rw [hlist]
    decide
  have hrun₃ : Run aclRuleStep OrderOpOk (.oneTable tid fun _ => false) db₃ := .snoc _ hrun₂ hset
  have hrun₄ : Run aclRuleStep OrderOpOk (.oneTable tid fun _ => false) db₄ := .snoc _ hrun₃ trivial
  have hempty := NoRules.oneTable tid fun _ => false
  exact ⟨by decide, by decide, tableListsOk_of_run hempty hrun₃, by decide,
    tableListsOk_of_run hempty hrun₄⟩

/-- The first of two rules gets the higher priority, and stays the first. -/
theorem not_tableListsOk_priority :
    let env := AclEnv.good (fun _ => .invalid) []
    let tid := uoidCreate .aclTable 1
    let attr : AclAttr := ⟨.priority, ⟨false, .u32 30, .zero⟩⟩
    let db₁ := aclRuleStep ⟨env, .create (prioritisedRule tid 10)⟩ (.oneTable tid fun _ => false)
    let db₂ := aclRuleStep ⟨env, .create (prioritisedRule tid 20)⟩ db₁
    let x := aclRuleExec ⟨env, .set (uoidCreate .aclEntry 0) attr⟩ db₂
    x.1 = .success ∧ ¬ TableListsOk x.2 := by
  intro env tid attr db₁ db₂ x
  refine ⟨by decide, fun h => ?_⟩
  have hhead : (x.2.table_tree tid).map (·.rule_head) = some [1, 2] := by decide
  obtain ⟨table, htable, hrules⟩ := Option.map_eq_some_iff.mp hhead
  have hsorted := (h tid table htable).sorted
  rw [hrules] at hsorted
  have hle : (rulePriority x.2 1).toNat ≤ (rulePriority x.2 2).toNat :=
    (List.pairwise_cons.mp hsorted).1 2 (by simp)
  exact absurd hle (by decide)

end OpxSai
