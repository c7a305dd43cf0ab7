import OpxSai.Acl.RuleAttr

/-!
# What a list of attributes makes of a rule

* `IdsFit` — counter, policer and sample packet sessions of a rule are those of its enabled
  actions.
-/

namespace OpxSai

variable {env : AclEnv} {index : Nat} {value : AclAttrValue} {table : AclTable} {rc : Status}
variable {act : AclAction} {f f' : AclFilter}
  {action : AclActionId}

/-! ## The ids of the actions -/

/-- The actions whose object a rule keeps beside its list of actions. -/
def aclIdAction : AclActionId → Bool
  | .counter | .setPolicer | .ingressSamplepacketEnable | .egressSamplepacketEnable => true
  | _ => false

def AclRule.actionId (rule : AclRule) : AclActionId → Oid
  | .counter => rule.counter_id
  | .setPolicer => rule.policer_id
  | .ingressSamplepacketEnable => rule.ingress_sample_id
  | .egressSamplepacketEnable => rule.egress_sample_id
  | _ => .null

variable {rule rule' : AclRule}

variable {field : AclField} {counts : AclAttrCounts} {attr_list : List AclAttr}

/-- The object of an enabled action of a list, null if there is no such action. -/
def actionOid (action : AclActionId) (actions : List AclAction) : Oid :=
  match actions.find? fun a => a.action = action with
  | some a => if a.enable then a.parameter.getOid else .null
  | none => .null

/-- Counter, policer and sessions of the rule are those of its enabled actions. -/
def IdsFit (rule : AclRule) : Prop :=
  ∀ a, aclIdAction a = true → rule.actionId a = actionOid a rule.action_list

def actionIds (actions : List AclAction) : List AclActionId := actions.map (·.action)

theorem actionOid_of_not_mem {a} {l} (h : a ∉ actionIds l) :
    actionOid a l = .null := by
  have hnone : (l.find? fun b => decide (b.action = a)) = none := by
    rw [List.find?_eq_none]
    intro b hb
    simp only [decide_eq_true_eq]
    rintro rfl
    exact h (List.mem_map_of_mem hb)
  unfold actionOid
  rw [hnone]

theorem actionOid_append {l} (h : act.action ∉ actionIds l) (a) :
    actionOid a (l ++ [act]) =
      if act.action = a then (if act.enable then act.parameter.getOid else .null)
      else actionOid a l := by
  unfold actionOid
  rw [List.find?_append]
  by_cases heq : act.action = a
  · subst heq
    have hnone : (l.find? fun b => decide (b.action = act.action)) = none := by
      rw [List.find?_eq_none]
      intro b hb
      simp only [decide_eq_true_eq]
      intro heq
      exact h (heq ▸ List.mem_map_of_mem hb)
    rw [hnone]
    simp
  · rw [if_neg heq]
    cases l.find? fun b => decide (b.action = a) with
    | some b => simp
    | none => simp [heq]

/-! ## Errors -/

theorem aclRuleFilterOf_error (h : aclRuleFilterOf env table index field value = .error rc) :
    rc ≠ .success := by
  have htype : ∀ filter rc, aclRuleFilterPopulateAttrType env index filter value = .error rc →
      rc ≠ .success := by
    intro filter rc h
    simp only [aclRuleFilterPopulateAttrType, aclRuleFilterPopulateAttrObjId,
      aclRuleFilterPopulateObjectList, aclRuleFilterPopulateU8List] at h
    repeat' split at h
    all_goals cases h
    all_goals first
      | assumption
      | simp
  have hudf : ∀ n filter rc, aclRuleUdfFilterPopulate env table n filter = .error rc →
      rc ≠ .success := by
    intro n filter rc h
    simp only [aclRuleUdfFilterPopulate] at h
    split at h
    · cases h
      simp
    split at h
    next hne =>
      cases h
      exact hne
    · cases h
  unfold aclRuleFilterOf at h
  split at h
  next rc' herr =>
    cases h
    exact getIndexedRetVal_ne_success (htype _ _ herr)
  split at h
  · split at h
    next rc' herr =>
      cases h
      exact getIndexedRetVal_ne_success (hudf _ _ _ herr)
    · cases h
  · cases h

theorem aclRuleActionOf_error (h : aclRuleActionOf env index action value = .error rc) :
    rc ≠ .success := by
  unfold aclRuleActionOf at h
  split at h
  next rc' herr =>
    cases h
    refine getIndexedRetVal_ne_success ?_
    simp only [aclRuleActionPopulateAttrType, aclRuleActionPopulateAttrObjId,
      aclRuleActionPopulateObjectList] at herr
    repeat' split at herr
    all_goals cases herr
    all_goals first
      | assumption
      | simp
  · cases h

theorem aclRuleActionIds_error (h : aclRuleActionIds env index action value rule = .error rc) :
    rc ≠ .success := by
  simp only [aclRuleActionIds] at h
  repeat' split at h
  all_goals cases h
  all_goals simp

theorem aclRulePopulateAttrs_error (h : aclRulePopulateAttrs env table index attr_list rule = .error rc)
    : rc ≠ .success := by
  induction attr_list generalizing index rule with
  | nil => exact absurd h (by simp [aclRulePopulateAttrs])
  | cons attr attr_list ih =>
    simp only [aclRulePopulateAttrs] at h
    split at h
    next rc' herr =>
      cases h
      obtain ⟨id, value⟩ := attr
      cases id with
      | field field =>
        simp only [aclRulePopulateAttr] at herr
        split at herr
        next rc'' hfilter =>
          cases herr
          exact aclRuleFilterOf_error hfilter
        · cases herr
      | action action =>
        simp only [aclRulePopulateAttr] at herr
        split at herr
        next rc'' hact =>
          cases herr
          exact aclRuleActionOf_error hact
        · exact aclRuleActionIds_error herr
      | tableId => exact absurd herr (by simp [aclRulePopulateAttr])
      | priority => exact absurd herr (by simp [aclRulePopulateAttr])
      | adminState => exact absurd herr (by simp [aclRulePopulateAttr])
      | unknown n =>
        cases herr
        simp
      | outOfRange n =>
        cases herr
        simp
    · exact ih h

theorem aclRulePopulate_error (h : aclRulePopulate env table rule attr_list = .error rc) :
    rc ≠ .success := by
  simp only [aclRulePopulate] at h
  split at h
  · cases h
    simp
  split at h
  next rc' herr =>
    cases h
    exact aclRulePopulateAttrs_error herr
  · cases h

theorem aclCheckRuleAttributes_error (h : aclCheckRuleAttributes index counts attr_list = .error rc) :
    rc ≠ .success := by
  induction attr_list generalizing index counts with
  | nil => exact absurd h (by simp [aclCheckRuleAttributes])
  | cons attr attr_list ih =>
    simp only [aclCheckRuleAttributes] at h
    split at h
    · cases h
      simp
    split at h
    · cases h
      simp
    · exact ih h

/-! ## One attribute -/

/-- Two versions of a filter are for the same field, in the same state and with the same marks. -/
structure SameField (f f' : AclFilter) : Prop where
  field : f'.field = f.field
  enable : f'.enable = f.enable
  field_change : f'.field_change = f.field_change
  new_field : f'.new_field = f.new_field

theorem SameField.refl (f) : SameField f f := ⟨rfl, rfl, rfl, rfl⟩

theorem aclRuleFilterPopulateRange_same (h : aclRuleFilterPopulateRange env index f value = .ok f')
    (hen : f.enable = value.enable) : SameField f f' := by
  simp only [aclRuleFilterPopulateRange] at h
  split at h
  · cases h
  split at h
  next hval =>
    split at h
    · cases h
    split at h
    · cases h
    cases h
    exact ⟨rfl, (hen.trans hval).symm, rfl, rfl⟩
  · cases h
    exact .refl f

theorem aclRuleFilterPopulateObjectList_same
    (h : aclRuleFilterPopulateObjectList env index f value = .ok f') (hen : f.enable = value.enable) :
    SameField f f' := by
  simp only [aclRuleFilterPopulateObjectList] at h
  by_cases hrange : aclRangeAttr f.field = true
  · -- a range is not a list of ports
    have hport : aclPortlistAttr f.field = false := by
      cases hf : f.field with
      | rangeType => rfl
      | _ => simp [hf, aclRangeAttr] at hrange
    cases hr : aclRuleFilterPopulateRange env index f value with
    | error rc =>
      simp only [hrange, hr, hport, if_true, Bool.false_eq_true, if_false] at h
      cases h
      exact .refl f
    | ok r =>
      have hsame := aclRuleFilterPopulateRange_same hr hen
      simp only [hrange, hr, hsame.field, hport, if_true, Bool.false_eq_true, if_false] at h
      cases h
      exact hsame
  · rw [if_neg hrange] at h
    split at h
    · split at h
      · cases h
      split at h
      next hval =>
        split at h
        · cases h
        split at h
        · cases h
        split at h
        · cases h
        cases h
        exact ⟨rfl, (hen.trans hval).symm, rfl, rfl⟩
      · cases h
        exact .refl f
    · cases h
      exact .refl f

/-- The type of a field decides about data and mask, and about nothing else of the filter. -/
theorem aclRuleFilterPopulateAttrType_same (h : aclRuleFilterPopulateAttrType env index f value = .ok f')
    (hen : f.enable = value.enable) : SameField f f' := by
  simp only [aclRuleFilterPopulateAttrType] at h
  split at h
  · cases h
    exact .refl f
  · cases h
    exact ⟨rfl, rfl, rfl, rfl⟩
  · simp only [aclRuleFilterPopulateAttrObjId] at h
    split at h
    · split at h
      · cases h
      split at h
      · cases h
        exact ⟨rfl, rfl, rfl, rfl⟩
      split at h
      · split at h
        · cases h
        cases h
        exact ⟨rfl, rfl, rfl, rfl⟩
      · split at h <;> cases h
    · cases h
      exact ⟨rfl, rfl, rfl, rfl⟩
  · exact aclRuleFilterPopulateObjectList_same h hen
  · simp only [aclRuleFilterPopulateU8List] at h
    split at h
    · cases h
    split at h
    next hval =>
      split at h
      · cases h
      cases h
      exact ⟨rfl, (hen.trans hval).symm, rfl, rfl⟩
    · cases h
      exact .refl f
  · cases h
    exact ⟨rfl, rfl, rfl, rfl⟩

/-- The filter a field attribute becomes is for the field that the stage has, with the state of
the attribute. -/
theorem aclRuleFilterOf_ok {filter}
    (h : aclRuleFilterOf env table index field value = .ok filter) :
    filter.field = aclStageField table field ∧ filter.enable = value.enable ∧
      filter.field_change = false ∧ filter.new_field = false := by
  unfold aclRuleFilterOf at h
  split at h
  · cases h
  rename_i mid hmid
  obtain ⟨hfield, hen, hchange, hnew⟩ := aclRuleFilterPopulateAttrType_same hmid rfl
  split at h
  · split at h
    · cases h
    rename_i filled hfilled
    cases h
    simp only [aclRuleUdfFilterPopulate] at hfilled
    split at hfilled
    · cases hfilled
    split at hfilled
    · cases hfilled
    cases hfilled
    exact ⟨hfield, hen, hchange, hnew⟩
  · cases h
    exact ⟨hfield, hen, hchange, hnew⟩

theorem aclRuleActionOf_ok (h : aclRuleActionOf env index action value = .ok act) :
    act.action = action ∧ act.enable = value.enable ∧ act.action_change = false ∧
      act.new_action = false := by
  unfold aclRuleActionOf at h
  split at h
  · cases h
  rename_i act' hact
  cases h
  simp only [aclRuleActionPopulateAttrType] at hact
  split at hact
  · cases hact
    exact ⟨rfl, rfl, rfl, rfl⟩
  · cases hact
    exact ⟨rfl, rfl, rfl, rfl⟩
  · cases hact
    exact ⟨rfl, rfl, rfl, rfl⟩
  · simp only [aclRuleActionPopulateAttrObjId] at hact
    split at hact
    · split at hact
      · cases hact
      · cases hact
        exact ⟨rfl, rfl, rfl, rfl⟩
    · cases hact
      exact ⟨rfl, rfl, rfl, rfl⟩
  · simp only [aclRuleActionPopulateObjectList] at hact
    split at hact
    · cases hact
    split at hact
    · split at hact
      · cases hact
      split at hact
      · cases hact
      split at hact
      · cases hact
      cases hact
      exact ⟨rfl, rfl, rfl, rfl⟩
    · cases hact
      exact ⟨rfl, rfl, rfl, rfl⟩
  · cases hact
    exact ⟨rfl, rfl, rfl, rfl⟩

theorem aclRuleActionOf_oid (htype : env.attr_types.typeOf (.action action) = .objectId)
    (h : aclRuleActionOf env index action value = .ok act) :
    act.parameter = .oid value.data.getOid := by
  unfold aclRuleActionOf at h
  split at h
  · cases h
  rename_i act' hact
  cases h
  unfold aclRuleActionPopulateAttrType at hact
  have hnew : (AclAction.new action value.enable).action = action := rfl
  rw [hnew, htype] at hact
  simp only [aclRuleActionPopulateAttrObjId] at hact
  split at hact
  · split at hact
    · cases hact
    · cases hact
      rfl
  · cases hact
    rfl

theorem AclAttrTypes.of_idAction (types : AclAttrTypes) {a} (h : aclIdAction a = true) :
    types.typeOf (.action a) = .objectId := by
  refine types.object a ?_
  cases a <;> simp_all [aclIdAction]

theorem aclRuleActionIds_ok (h : aclRuleActionIds env index action value rule = .ok rule') :
    (∀ a, rule'.actionId a = if a = action ∧ aclIdAction a = true ∧ value.enable = true
      then value.data.getOid else rule.actionId a) ∧
    rule'.action_list = rule.action_list ∧ rule'.filter_list = rule.filter_list ∧
    rule'.acl_id = rule.acl_id ∧ rule'.table_id = rule.table_id ∧
    rule'.acl_rule_priority = rule.acl_rule_priority ∧
    rule'.acl_rule_state = rule.acl_rule_state := by
  have hkeep : ∀ r : AclRule, r = rule →
      (value.enable = false ∨ aclIdAction action = false) →
      (∀ a, r.actionId a = if a = action ∧ aclIdAction a = true ∧ value.enable = true
        then value.data.getOid else rule.actionId a) := by
    rintro r rfl hno a
    rw [if_neg]
    rintro ⟨rfl, hid, hen⟩
    rcases hno with hno | hno
    · rw [hen] at hno
      cases hno
    · rw [hid] at hno
      cases hno
  cases action with
  | counter =>
    simp only [aclRuleActionIds] at h
    split at h
    · cases h
    cases h
    cases hen : value.enable with
    | true => exact ⟨fun a => by cases a <;> simp [AclRule.actionId, aclIdAction], rfl, rfl, rfl, rfl, rfl, rfl⟩
    | false => exact ⟨fun a => by simp [hen], rfl, rfl, rfl, rfl, rfl, rfl⟩
  | ingressSamplepacketEnable =>
    simp only [aclRuleActionIds] at h
    split at h
    · cases h
    cases h
    cases hen : value.enable with
    | true => exact ⟨fun a => by cases a <;> simp [AclRule.actionId, aclIdAction], rfl, rfl, rfl, rfl, rfl, rfl⟩
    | false => exact ⟨fun a => by simp [hen], rfl, rfl, rfl, rfl, rfl, rfl⟩
  | egressSamplepacketEnable =>
    simp only [aclRuleActionIds] at h
    split at h
    · cases h
    cases h
    cases hen : value.enable with
    | true => exact ⟨fun a => by cases a <;> simp [AclRule.actionId, aclIdAction], rfl, rfl, rfl, rfl, rfl, rfl⟩
    | false => exact ⟨fun a => by simp [hen], rfl, rfl, rfl, rfl, rfl, rfl⟩
  | setPolicer =>
    simp only [aclRuleActionIds] at h
    split at h
    · cases h
    split at h
    · cases h
    cases h
    cases hen : value.enable with
    | true => exact ⟨fun a => by cases a <;> simp [AclRule.actionId, aclIdAction], rfl, rfl, rfl, rfl, rfl, rfl⟩
    | false => exact ⟨fun a => by simp [hen], rfl, rfl, rfl, rfl, rfl, rfl⟩
  | setCpuQueue | mirrorIngress | mirrorEgress | redirectList | other n =>
    cases h
    exact ⟨hkeep _ rfl (.inr rfl), rfl, rfl, rfl, rfl, rfl, rfl⟩

/-! ## All attributes -/

def AclAttr.actionId (attr : AclAttr) : Option AclActionId :=
  match attr.id with
  | .action a => some a
  | _ => none

/-- The table that a list of attributes names, or the one there was before. -/
def namedTable (table_id : Oid) : List AclAttr → Oid
  | [] => table_id
  | attr :: attr_list =>
    namedTable (if attr.id = .tableId then attr.value.data.getOid else table_id) attr_list

theorem aclRulePopulateAttr_ok {attr}
    (h : aclRulePopulateAttr env table index attr rule = .ok rule') :
    actionIds rule'.action_list = actionIds rule.action_list ++ attr.actionId.toList ∧
    rule'.acl_id = rule.acl_id ∧
    rule'.table_id = (if attr.id = .tableId then attr.value.data.getOid else rule.table_id) ∧
    (IdsFit rule → (∀ a, attr.id = .action a → a ∉ actionIds rule.action_list) → IdsFit rule') := by
  obtain ⟨id, value⟩ := attr
  cases id with
  | field field =>
    simp only [aclRulePopulateAttr] at h
    split at h
    · cases h
    cases h
    exact ⟨by simp [AclAttr.actionId], rfl, rfl, fun hfit _ => hfit⟩
  | action action =>
    simp only [aclRulePopulateAttr] at h
    split at h
    · cases h
    rename_i act hact
    obtain ⟨hid, hen, -, -⟩ := aclRuleActionOf_ok hact
    obtain ⟨hids, hactions, -, hacl, htable, -, -⟩ := aclRuleActionIds_ok h
    refine ⟨?_, hacl, by simp [htable], fun hfit hnew => ?_⟩
    · rw [hactions]
      simp [actionIds, AclAttr.actionId, hid]
    · have hfresh : act.action ∉ actionIds rule.action_list := by
        rw [hid]
        exact hnew action rfl
      intro a ha
      rw [hids, hactions]
      show _ = actionOid a (rule.action_list ++ [act])
      rw [actionOid_append hfresh, hid]
      by_cases heq : action = a
      · subst heq
        rw [if_pos rfl, hen, aclRuleActionOf_oid (env.attr_types.of_idAction ha) hact]
        cases hval : value.enable with
        | true =>
          rw [if_pos ⟨rfl, ha, rfl⟩]
          rfl
        | false =>
          rw [if_neg (by simp)]
          have hold : rule.actionId action = actionOid action rule.action_list := hfit action ha
          rw [actionOid_of_not_mem (hid ▸ hfresh)] at hold
          exact hold
      · rw [if_neg heq, if_neg (fun hand => heq hand.1.symm)]
        exact hfit a ha
  | tableId =>
    cases h
    exact ⟨by simp [AclAttr.actionId], rfl, rfl, fun hfit _ => hfit⟩
  | priority =>
    cases h
    exact ⟨by simp [AclAttr.actionId], rfl, rfl, fun hfit _ => hfit⟩
  | adminState =>
    cases h
    exact ⟨by simp [AclAttr.actionId], rfl, rfl, fun hfit _ => hfit⟩
  | unknown n => exact absurd h (by simp [aclRulePopulateAttr])
  | outOfRange n => exact absurd h (by simp [aclRulePopulateAttr])

/-- **The loop over the attributes**, by induction over the list: the actions behind those there
are, the table that was named last, and ids that fit if no action comes twice. -/
theorem aclRulePopulateAttrs_ok (h : aclRulePopulateAttrs env table index attr_list rule = .ok rule') :
    actionIds rule'.action_list = actionIds rule.action_list ++ attr_list.filterMap (·.actionId) ∧
    rule'.acl_id = rule.acl_id ∧
    rule'.table_id = namedTable rule.table_id attr_list ∧
    (IdsFit rule → (actionIds rule.action_list ++ attr_list.filterMap (·.actionId)).Nodup →
      IdsFit rule') := by
  induction attr_list generalizing index rule with
  | nil =>
    cases h
    exact ⟨by simp, rfl, rfl, fun hfit _ => hfit⟩
  | cons attr attr_list ih =>
    simp only [aclRulePopulateAttrs] at h
    split at h
    · cases h
    rename_i mid hmid
    obtain ⟨hactions, hacl, htable, hfit⟩ := aclRulePopulateAttr_ok hmid
    obtain ⟨hactions', hacl', htable', hfit'⟩ := ih h
    have hcons : (attr :: attr_list).filterMap (·.actionId) =
        attr.actionId.toList ++ attr_list.filterMap (·.actionId) := by
      rw [List.filterMap_cons]
      cases attr.actionId <;> rfl
    refine ⟨?_, hacl'.trans hacl, ?_, fun hold hnodup => ?_⟩
    · rw [hactions', hactions, hcons, List.append_assoc]
    · rw [htable', htable]
      rfl
    · rw [hcons, ← List.append_assoc] at hnodup
      refine hfit' (hfit hold fun a ha hin => ?_) (hactions ▸ hnodup)
      have hdisjoint := (List.nodup_append.mp (List.nodup_append.mp hnodup).1).2.2
      exact hdisjoint a hin a (by simp [AclAttr.actionId, ha]) rfl

theorem aclCheckRuleAttributes_ok {counts counts'}
    (h : aclCheckRuleAttributes index counts attr_list = .ok counts') :
    (attr_list.map (·.id)).Nodup ∧
      counts'.acl_table_id = namedTable counts.acl_table_id attr_list := by
  induction attr_list generalizing index counts with
  | nil =>
    cases h
    exact ⟨List.nodup_nil, rfl⟩
  | cons attr attr_list ih =>
    simp only [aclCheckRuleAttributes] at h
    split at h
    · cases h
    split at h
    · cases h
    rename_i hnone
    obtain ⟨hnodup, htable⟩ := ih h
    refine ⟨List.nodup_cons.mpr ⟨fun hin => ?_, hnodup⟩, ?_⟩
    · obtain ⟨dup, hdup, heq⟩ := List.mem_map.mp hin
      have hno := List.findIdx?_eq_none_iff.mp hnone dup hdup
      rw [heq] at hno
      exact absurd hno (by simp)
    · rw [htable]
      show namedTable _ attr_list = namedTable _ attr_list
      congr 1
      obtain ⟨id, value⟩ := attr
      cases id <;> rfl

theorem nodup_filterMap_actionId (h : (attr_list.map (·.id)).Nodup) :
    (attr_list.filterMap (·.actionId)).Nodup := by
  induction attr_list with
  | nil => exact List.nodup_nil
  | cons attr attr_list ih =>
    obtain ⟨hnew, hrest⟩ := List.nodup_cons.mp h
    rw [List.filterMap_cons]
    cases hid : attr.actionId with
    | none => exact ih hrest
    | some a =>
      have hattr : ∀ b : AclAttr, b.actionId = some a → b.id = .action a := by
        intro b hb
        unfold AclAttr.actionId at hb
        split at hb
        next a' heq =>
          cases hb
          exact heq
        · cases hb
      refine List.nodup_cons.mpr ⟨fun hin => ?_, ih hrest⟩
      obtain ⟨dup, hdup, heq⟩ := List.mem_filterMap.mp hin
      have hsame : attr.id = dup.id := (hattr attr hid).trans (hattr dup heq).symm
      exact hnew (List.mem_map.mpr ⟨dup, hdup, hsame.symm⟩)

/-- **A rule starts out with ids that fit**, in the table it names, with the id it had. -/
theorem aclRulePopulate_ok (h : aclRulePopulate env table rule attr_list = .ok rule')
    (hzero : rule.action_list = []) (hids : ∀ a, rule.actionId a = .null)
    (hnodup : (attr_list.map (·.id)).Nodup) :
    IdsFit rule' ∧ rule'.table_id = namedTable rule.table_id attr_list ∧
      rule'.acl_id = rule.acl_id := by
  simp only [aclRulePopulate] at h
  split at h
  · cases h
  split at h
  · cases h
  rename_i mid hmid
  obtain ⟨-, hacl, htable, hfit⟩ := aclRulePopulateAttrs_ok hmid
  have hstart : IdsFit rule := by
    intro a _
    rw [hids, hzero]
    rfl
  have hmidfit : IdsFit mid := by
    refine hfit hstart ?_
    rw [hzero]
    exact nodup_filterMap_actionId hnodup
  cases h
  split
  · exact ⟨hmidfit, htable, hacl⟩
  · exact ⟨hmidfit, htable, hacl⟩

end OpxSai
