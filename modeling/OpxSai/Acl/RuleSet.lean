import OpxSai.Acl.RuleCases

/-!
# What a set of one attribute does to a rule

A set makes a scan rule that has one field, or one action, or neither. The update then comes down
to one change in one list.

* `updatedRule_scalar`, `updatedRule_field`, `updatedRule_action`, `updatedRule_counter` — the rule
  after the update, by what the scan rule has.
-/

namespace OpxSai

open AclDb

variable {act : AclAction} {a : AclActionId} {env : AclEnv} {table : AclTable}
variable {given : AclRule} {d db : AclDb} {new : AclAction} {l : List AclAction} {acl_id : Oid}
variable {p : Ptr} {present modify : AclRule} {attr : AclAttr}

/-! ## A write to a list -/

section UpdateFirst

variable {α : Type} (chosen other : α → Bool) (new : α)

theorem find?_updateFirst (hnew : chosen new = true) (l : List α) :
    (updateFirst chosen new l).find? chosen = (l.find? chosen).map fun _ => new := by
  induction l with
  | nil => rfl
  | cons a l ih =>
    unfold updateFirst
    by_cases ha : chosen a = true
    · rw [if_pos ha, List.find?_cons_of_pos hnew, List.find?_cons_of_pos ha]
      rfl
    · rw [if_neg ha, List.find?_cons_of_neg ha, List.find?_cons_of_neg ha, ih]

theorem find?_updateFirst_other (hnew : other new = false)
    (hother : ∀ a, chosen a = true → other a = false) (l : List α) :
    (updateFirst chosen new l).find? other = l.find? other := by
  induction l with
  | nil => rfl
  | cons a l ih =>
    unfold updateFirst
    by_cases ha : chosen a = true
    · rw [if_pos ha, List.find?_cons_of_neg (by simp [hnew]),
        List.find?_cons_of_neg (by simp [hother a ha])]
    rw [if_neg ha]
    cases hb : other a with
    | true => rw [List.find?_cons_of_pos hb, List.find?_cons_of_pos hb]
    | false => rw [List.find?_cons_of_neg (by simp [hb]), List.find?_cons_of_neg (by simp [hb]), ih]

theorem map_updateFirst {β : Type} (f : α → β) (hsame : ∀ a, chosen a = true → f a = f new)
    (l : List α) : (updateFirst chosen new l).map f = l.map f := by
  induction l with
  | nil => rfl
  | cons a l ih =>
    unfold updateFirst
    by_cases ha : chosen a = true
    · rw [if_pos ha, List.map_cons, List.map_cons, hsame a ha]
    · rw [if_neg ha, List.map_cons, List.map_cons, ih]

end UpdateFirst

/-! ## The scan rule -/

/-- The scan rule is the attribute on a rule that has nothing, the priority of the rule and the
default state. -/
theorem aclRuleModify_eq (h : aclRuleModify env table present attr = .ok modify) :
    ∃ mid, aclRulePopulateAttr env table 0 attr { AclRule.zero with acl_id := present.acl_id } =
        .ok mid ∧
      modify = { mid with
        acl_rule_state := if attr.id = .adminState then mid.acl_rule_state else env.default_state
        acl_rule_priority :=
          if attr.id = .priority then mid.acl_rule_priority else present.acl_rule_priority } := by
  unfold aclRuleModify at h
  split at h
  · cases h
  rename_i rule hpop
  cases h
  unfold aclRulePopulate at hpop
  split at hpop
  · cases hpop
  simp only [aclRulePopulateAttrs] at hpop
  cases hmid : aclRulePopulateAttr env table 0 attr
      { AclRule.zero with acl_id := present.acl_id } with
  | error rc =>
    rw [hmid] at hpop
    cases hpop
  | ok mid =>
    rw [hmid] at hpop
    cases hpop
    refine ⟨mid, rfl, ?_⟩
    by_cases hstate : attr.id = .adminState
    · simp [hstate]
    by_cases hprio : attr.id = .priority
    · simp [hprio]
    · simp [hstate, hprio]

/-- The lists of the scan rule: what the attribute is about, and nothing else. -/
theorem aclRuleModify_lists (h : aclRuleModify env table present attr = .ok modify) :
    match attr.id with
    | .field field => ∃ filter, aclRuleFilterOf env table 0 field attr.value = .ok filter ∧
        modify.filter_list = [filter] ∧ modify.action_list = []
    | .action action => ∃ act, aclRuleActionOf env 0 action attr.value = .ok act ∧
        modify.filter_list = [] ∧ modify.action_list = [act]
    | _ => modify.filter_list = [] ∧ modify.action_list = [] := by
  obtain ⟨mid, hmid, rfl⟩ := aclRuleModify_eq h
  obtain ⟨id, value⟩ := attr
  cases id with
  | field field =>
    simp only [aclRulePopulateAttr] at hmid
    split at hmid
    · cases hmid
    rename_i filter hfilter
    cases hmid
    exact ⟨filter, hfilter, rfl, rfl⟩
  | action action =>
    simp only [aclRulePopulateAttr] at hmid
    split at hmid
    · cases hmid
    rename_i act hact
    obtain ⟨-, hactions, hfilters, -⟩ := aclRuleActionIds_ok hmid
    exact ⟨act, hact, hfilters, hactions⟩
  | tableId | priority | adminState =>
    cases hmid
    exact ⟨rfl, rfl⟩
  | unknown n => exact absurd hmid (by simp [aclRulePopulateAttr])
  | outOfRange n => exact absurd hmid (by simp [aclRulePopulateAttr])

/-- The ids of the scan rule: the object of an enabled action, and nothing else. -/
theorem aclRuleModify_ids (h : aclRuleModify env table present attr = .ok modify) (a) :
    modify.actionId a = if attr.id = .action a ∧ aclIdAction a = true ∧ attr.value.enable = true
      then attr.value.data.getOid else .null := by
  obtain ⟨mid, hmid, rfl⟩ := aclRuleModify_eq h
  have hzero : ∀ id : Oid, ∀ l, ∀ b, AclRule.actionId { AclRule.zero with
      acl_id := id, action_list := l } b = .null := by
    intro id l b
    cases b <;> rfl
  have hsame : ∀ r : AclRule, ∀ n s, AclRule.actionId { r with
      acl_rule_priority := n, acl_rule_state := s } a = r.actionId a := by
    intro r n s
    cases a <;> rfl
  refine (hsame mid _ _).trans ?_
  obtain ⟨id, value⟩ := attr
  cases id with
  | field field =>
    simp only [aclRulePopulateAttr] at hmid
    split at hmid
    · cases hmid
    cases hmid
    rw [if_neg (by simp)]
    cases a <;> rfl
  | action action =>
    simp only [aclRulePopulateAttr] at hmid
    split at hmid
    · cases hmid
    obtain ⟨hids, -⟩ := aclRuleActionIds_ok hmid
    rw [hids]
    by_cases ha : a = action
    · subst ha
      simp only [true_and]
      split
      · rfl
      · exact hzero _ _ _
    · rw [if_neg fun hand => ha hand.1, if_neg fun hand => ha (by simpa using hand.1.symm)]
      exact hzero _ _ _
  | tableId | priority | adminState =>
    cases hmid
    rw [if_neg (by simp)]
    cases a <;> rfl
  | unknown n => exact absurd hmid (by simp [aclRulePopulateAttr])
  | outOfRange n => exact absurd hmid (by simp [aclRulePopulateAttr])

/-! ## The update -/

/-- A field of the scan rule, with the mark that `sai_acl_rule_set_field_action` puts on it. -/
def markedFilter (given : AclRule) (f : AclFilter) : AclFilter :=
  match given.filter_list.find? fun g => g.field = f.field with
  | some g => { f with field_change := aclCheckFilterChange g f }
  | none => { f with new_field := true }

def markedAction (given : AclRule) (a : AclAction) : AclAction :=
  match given.action_list.find? fun g => g.action = a.action with
  | some g => { a with action_change := aclCheckActionChange g a }
  | none => { a with new_action := true }

theorem aclRuleSetFieldAction_eq (scan given) :
    aclRuleSetFieldAction scan given = { scan with
      filter_list := scan.filter_list.map (markedFilter given)
      action_list := scan.action_list.map (markedAction given) } := rfl

def filtersAfter (env : AclEnv) (scan : AclFilter) (filters : List AclFilter) : List AclFilter :=
  match filters.find? fun g => g.field = scan.field with
  | some g =>
    if aclCheckFilterChange g scan then
      updateFirst (fun g => g.field = scan.field)
        (aclRuleUpdateFilter env { scan with field_change := true } g).2 filters
    else filters
  | none =>
    if !env.avail .newFields then filters
    else
      let x := aclRuleNewFilter env { scan with new_field := true }
      if x.1 ≠ .success then filters else filters ++ [x.2]

/-- The actions of a rule after the set of one of them, which is not the counter. -/
def actionsAfter (env : AclEnv) (act : AclAction) (actions : List AclAction) : List AclAction :=
  match actions.find? fun g => g.action = act.action with
  | some g =>
    if !aclCheckActionChange g act then actions
    else if aclObjectListActionAttr g.action then
      let x := aclRuleUpdateObjectList env act.parameter g.parameter act.enable
      let g := { g with enable := act.enable }
      updateFirst (fun g => g.action = act.action)
        (if x.1 ≠ .success then g else { g with parameter := x.2, action_change := false }) actions
    else
      updateFirst (fun g => g.action = act.action) { act with action_change := false } actions
  | none =>
    if !env.avail .newActions then actions
    else if aclObjectListActionAttr act.action then
      let x := aclRuleUpdateObjectList env act.parameter .zero act.enable
      if x.1 ≠ .success then actions
      else actions ++ [{ AclAction.new act.action act.enable with parameter := x.2 }]
    else actions ++ [{ act with new_action := false }]

section Update

/-- The rule with the scalars of the scan rule. -/
def updatedScalars (env : AclEnv) (modify present : AclRule) : AclRule :=
  aclRuleScalars modify present (modify.acl_rule_priority ≠ present.acl_rule_priority)
    (modify.acl_rule_state ≠ env.default_state ∧ modify.acl_rule_state ≠ present.acl_rule_state)

theorem updatedRule_eq (env) (modify present) (d) :
    updatedRule env modify present d = (aclRuleUpdateFieldAction env
      (aclRuleSetFieldAction modify present) (updatedScalars env modify present) d).2 := by
  unfold updatedRule
  rw [aclRuleUpdate_eq]
  rfl

theorem updatedRule_scalar (hf : modify.filter_list = []) (ha : modify.action_list = []) :
    updatedRule env modify present d = (updatedScalars env modify present, d) := by
  rw [updatedRule_eq, aclRuleSetFieldAction_eq, hf, ha]
  rfl

theorem updateNewActions_nil (scan given) (h : scan.action_list = []) :
    aclRuleUpdateNewActions env scan given d = (.success, given, d) := by
  unfold aclRuleUpdateNewActions
  rw [h]
  rfl

theorem aclRuleChangeFields_one (env) (scan) (given) :
    aclRuleChangeFields env [scan] given =
      if !scan.field_change then (.success, given)
      else match given.filter_list.find? fun g => g.field = scan.field with
        | none => (.success, given)
        | some g => ((aclRuleUpdateFilter env scan g).1, { given with
            filter_list := updateFirst (fun g => g.field = scan.field)
              (aclRuleUpdateFilter env scan g).2 given.filter_list }) := by
  simp only [aclRuleChangeFields]
  cases given.filter_list.find? fun g => decide (g.field = scan.field) with
  | none => rfl
  | some g =>
    by_cases hok : (aclRuleUpdateFilter env scan g).1 = .success
    · simp [hok]
    · simp [hok]

theorem updatedRule_field {filter} (hf : modify.filter_list = [filter])
    (ha : modify.action_list = []) (hnew : filter.new_field = false)
    (hchange : filter.field_change = false) :
    updatedRule env modify present d = ({ updatedScalars env modify present with
      filter_list := filtersAfter env filter present.filter_list }, d) := by
  obtain ⟨field, enable, match_data, match_mask, udf_field, field_change, new_field⟩ := filter
  obtain rfl : new_field = false := hnew
  obtain rfl : field_change = false := hchange
  rw [updatedRule_eq, aclRuleSetFieldAction_eq, hf, ha]
  generalize hgiven : updatedScalars _ _ _ = given
  have hlist : given.filter_list = present.filter_list := by
    rw [← hgiven]
    rfl
  have hself : { given with filter_list := present.filter_list } = given := by
    rw [← hlist]
  simp only [aclRuleUpdateFieldAction, List.map_cons, List.map_nil, aclRuleChangeFields_one,
    aclRuleUpdateNewFields, aclRuleChangeActions, markedFilter, filtersAfter, hlist]
  cases hfind : present.filter_list.find? fun g => decide (g.field = field) with
  | some g =>
    dsimp only
    rw [hfind]
    dsimp only
    by_cases hdiff : aclCheckFilterChange g
        ⟨field, enable, match_data, match_mask, udf_field, false, false⟩ = true
    · by_cases hok : (aclRuleUpdateFilter env
          ⟨field, enable, match_data, match_mask, udf_field, true, false⟩ g).1 = .success
      · simp [hdiff, hok, updateNewActions_nil]
      · simp [hdiff, hok]
    · simp [hdiff, hself, updateNewActions_nil]
  | none =>
    dsimp only
    cases havail : env.avail .newFields with
    | false => simp [hself]
    | true =>
      simp only [aclRuleAppendFields]
      by_cases hok : (aclRuleNewFilter env
          ⟨field, enable, match_data, match_mask, udf_field, false, true⟩).1 = .success
      · simp [hok, hlist, updateNewActions_nil]
      · simp [hok, hself]

theorem updatedRule_action (hf : modify.filter_list = [])
    (ha : modify.action_list = [act]) (hnew : act.new_action = false)
    (hchange : act.action_change = false) (hcnt : act.action ≠ .counter) :
    updatedRule env modify present d = ({ updatedScalars env modify present with
      action_list := actionsAfter env act present.action_list }, d) := by
  obtain ⟨action, enable, parameter, action_change, new_action⟩ := act
  obtain rfl : new_action = false := hnew
  obtain rfl : action_change = false := hchange
  rw [updatedRule_eq, aclRuleSetFieldAction_eq, hf, ha]
  generalize hgiven : updatedScalars _ _ _ = given
  have hlist : given.action_list = present.action_list := by
    rw [← hgiven]
    rfl
  have hself : { given with action_list := present.action_list } = given := by
    rw [← hlist]
  simp only [aclRuleUpdateFieldAction, List.map_cons, List.map_nil, aclRuleChangeFields,
    aclRuleUpdateNewFields, aclRuleChangeActions, markedAction, actionsAfter, hlist]
  cases hfind : present.action_list.find? fun g => decide (g.action = action) with
  | some g =>
    dsimp only
    rw [hfind]
    dsimp only
    by_cases hdiff : aclCheckActionChange g ⟨action, enable, parameter, false, false⟩ = true
    · simp only [hdiff, aclRuleUpdateAction, aclRuleUpdateNewActions]
      cases hobj : aclObjectListActionAttr g.action with
      | true =>
        by_cases hok : (aclRuleUpdateObjectList env parameter g.parameter enable).1 = .success
        · simp [hok, hlist]
        · simp [hok, hlist]
      | false => simp [hcnt, hlist]
    · simp [hdiff, hself, aclRuleUpdateNewActions]
  | none =>
    simp only [aclRuleUpdateNewActions]
    cases havail : env.avail .newActions with
    | false => simp [hself]
    | true =>
      simp only [aclRuleAppendActions]
      cases hobj : aclObjectListActionAttr action with
      | true =>
        simp only [AclAction.new]
        by_cases hok : (aclRuleUpdateObjectList env parameter .zero enable).1 = .success
        · simp [hok, hlist]
        · simp [hok, hself]
      | false => simp [hcnt, hlist]

/-- The counter update changes the counter of the rule and nothing else of it. -/
theorem aclRuleUpdateCounterAction_rule {scan} {enable : Bool} :
    ∃ c, (aclRuleUpdateCounterAction env scan given enable d).2.1 =
      { given with counter_id := c } := by
  simp only [aclRuleUpdateCounterAction]
  split
  · split
    · split
      · exact ⟨given.counter_id, rfl⟩
      · exact ⟨_, rfl⟩
    · exact ⟨given.counter_id, rfl⟩
  split
  · split
    · split
      · exact ⟨given.counter_id, rfl⟩
      · exact ⟨_, rfl⟩
    · exact ⟨given.counter_id, rfl⟩
  · exact ⟨_, rfl⟩

def counterUpdated (env : AclEnv) (modify given : AclRule) (act : AclAction) (d : AclDb) :
    AclRule × AclDb :=
  let x := aclRuleUpdateCounterAction env modify given act.enable d
  match given.action_list.find? fun g => g.action = .counter with
  | some g =>
    if !aclCheckActionChange g act then (given, d)
    else if x.1 ≠ .success then x.2
    else ({ x.2.1 with
      action_list := updateFirst (fun g => g.action = .counter) act x.2.1.action_list }, x.2.2)
  | none =>
    if !env.avail .newActions then (given, d)
    else if x.1 ≠ .success then x.2
    else ({ x.2.1 with action_list := given.action_list ++ [act] }, x.2.2)

theorem updatedRule_counter (hf : modify.filter_list = [])
    (ha : modify.action_list = [act]) (hnew : act.new_action = false)
    (hchange : act.action_change = false) (hcnt : act.action = .counter) :
    updatedRule env modify present d =
      counterUpdated env modify (updatedScalars env modify present) act d := by
  obtain ⟨action, enable, parameter, action_change, new_action⟩ := act
  obtain rfl : new_action = false := hnew
  obtain rfl : action_change = false := hchange
  obtain rfl : action = .counter := hcnt
  rw [updatedRule_eq, aclRuleSetFieldAction_eq, hf, ha]
  generalize hgiven : updatedScalars _ _ _ = given
  have hlist : given.action_list = present.action_list := by
    rw [← hgiven]
    rfl
  simp only [aclRuleUpdateFieldAction, List.map_cons, List.map_nil, aclRuleChangeFields,
    aclRuleUpdateNewFields, aclRuleChangeActions, markedAction, counterUpdated, hlist]
  -- of the scan rule only the counter is read
  have hscan : ∀ actions, aclRuleUpdateCounterAction env { modify with
      filter_list := [], action_list := actions } given enable d =
      aclRuleUpdateCounterAction env modify given enable d := fun _ => rfl
  cases hfind : present.action_list.find? fun g => decide (g.action = .counter) with
  | some g =>
    have hobj : aclObjectListActionAttr g.action = false := by
      have hg : g.action = .counter := by simpa using List.find?_some hfind
      rw [hg]
      rfl
    dsimp only
    rw [hfind]
    dsimp only
    by_cases hdiff : aclCheckActionChange g ⟨.counter, enable, parameter, false, false⟩ = true
    · simp only [hdiff, aclRuleUpdateAction, aclRuleUpdateNewActions, hobj, if_true, hscan]
      by_cases hok : (aclRuleUpdateCounterAction env modify given enable d).1 = .success
      · simp [hok]
      · simp [hok]
    · simp [hdiff, aclRuleUpdateNewActions]
  | none =>
    simp only [aclRuleUpdateNewActions]
    cases havail : env.avail .newActions with
    | false => simp
    | true =>
      have hobj : aclObjectListActionAttr .counter = false := rfl
      simp only [aclRuleAppendActions, hobj]
      by_cases hok : (aclRuleUpdateCounterAction env modify given enable d).1 = .success
      · simp [hscan, hok, hlist]
      · simp [hscan, hok]

end Update

/-! ## The objects of the actions -/

theorem aclCheckActionChange_same {g act} (h : aclCheckActionChange g act = false) :
    act.enable = g.enable ∧ act.parameter = g.parameter := by
  unfold aclCheckActionChange at h
  split at h
  · cases h
  rename_i henable
  split at h
  · cases h
  refine ⟨not_not.mp henable, ?_⟩
  unfold memDiffers at h
  split at h
  · cases h
  · simpa using h

theorem actionOid_updateFirst_other {a b} (hnew : new.action = b)
    (hne : a ≠ b) (l) :
    actionOid a (updateFirst (fun g => g.action = b) new l) = actionOid a l := by
  unfold actionOid
  rw [find?_updateFirst_other]
  · simp [hnew, hne.symm]
  intro g hg
  have heq : g.action = b := by simpa using hg
  simp [heq, hne.symm]

theorem actionOid_append_other (hne : a ≠ new.action) : actionOid a (l ++ [new]) = actionOid a l := by
  unfold actionOid
  rw [List.find?_append]
  cases l.find? fun b => decide (b.action = a) with
  | some b => simp
  | none => simp [hne.symm]

theorem actionOid_counterUpdated {modify} (given)
    (hcnt : act.action = .counter) (hne : a ≠ .counter) :
    actionOid a (counterUpdated env modify given act d).1.action_list =
      actionOid a given.action_list := by
  obtain ⟨c, hrule⟩ := aclRuleUpdateCounterAction_rule
  have hsame : (aclRuleUpdateCounterAction env modify given act.enable d).2.1.action_list =
      given.action_list := by
    rw [hrule]
  unfold counterUpdated
  cases given.action_list.find? fun g => decide (g.action = .counter) with
  | some g =>
    dsimp only
    split
    · rfl
    split
    · rw [hsame]
    · rw [hsame]
      exact actionOid_updateFirst_other hcnt hne _
  | none =>
    dsimp only
    split
    · rfl
    split
    · rw [hsame]
    · exact actionOid_append_other (hcnt ▸ hne)

theorem actionOid_actionsAfter_other (hne : a ≠ act.action) :
    actionOid a (actionsAfter env act l) = actionOid a l := by
  unfold actionsAfter
  cases hfind : l.find? fun g => decide (g.action = act.action) with
  | some g =>
    have hg : g.action = act.action := by simpa using List.find?_some hfind
    dsimp only
    split
    · rfl
    split
    · refine actionOid_updateFirst_other ?_ hne l
      split
      · exact hg
      · exact hg
    · exact actionOid_updateFirst_other (by rfl) hne l
  | none =>
    dsimp only
    split
    · rfl
    split
    · split
      · rfl
      · exact actionOid_append_other (by exact hne)
    · exact actionOid_append_other (by exact hne)

/-- The set of an action gives it its object, if there is memory for an enabled action that is
new to the rule. -/
theorem actionOid_actionsAfter_self (hobj : aclObjectListActionAttr act.action = false)
    (havail : act.enable = true → act.action ∉ actionIds l → env.avail .newActions = true) :
    actionOid act.action (actionsAfter env act l) =
      if act.enable then act.parameter.getOid else .null := by
  unfold actionsAfter
  cases hfind : l.find? fun g => decide (g.action = act.action) with
  | some g =>
    have hg : g.action = act.action := by simpa using List.find?_some hfind
    dsimp only
    by_cases hdiff : aclCheckActionChange g act = true
    · rw [hdiff, if_neg (by simp), if_neg (by simp [hg, hobj])]
      unfold actionOid
      rw [find?_updateFirst _ _ (by simp), hfind]
      rfl
    obtain ⟨henable, hparam⟩ := aclCheckActionChange_same (by simpa using hdiff)
    rw [if_pos (by simp [hdiff])]
    unfold actionOid
    rw [hfind, henable, hparam]
  | none =>
    have hfresh : act.action ∉ actionIds l := by
      intro hin
      obtain ⟨g, hg, heq⟩ := List.mem_map.mp hin
      have hno := List.find?_eq_none.mp hfind g hg
      exact absurd heq (by simpa using hno)
    dsimp only
    by_cases hmem : env.avail .newActions = true
    · rw [if_neg (by simp [hmem]), if_neg (by simp [hobj])]
      exact (actionOid_append (by exact hfresh) _).trans (if_pos rfl)
    · rw [if_pos (by simp [hmem]), actionOid_of_not_mem hfresh, if_neg]
      exact fun henable => hmem (havail henable hfresh)

/-- **A set leaves the objects of the actions that it is not about.** -/
theorem RuleUpdated.actionOid_other
    (h : RuleUpdated env acl_id attr db p present modify given) (hne : attr.id ≠ .action a) :
    actionOid a given.action_list = actionOid a present.action_list := by
  obtain ⟨table, -, hmodify⟩ := h.made
  obtain ⟨d, -, -, rfl⟩ := h.given
  have hlists := aclRuleModify_lists hmodify
  obtain ⟨id, value⟩ := attr
  cases id with
  | field field =>
    obtain ⟨filter, hfilter, hf, ha⟩ := hlists
    obtain ⟨-, -, hchange, hnew⟩ := aclRuleFilterOf_ok hfilter
    rw [updatedRule_field hf ha hnew hchange]
    rfl
  | action action =>
    obtain ⟨act, hact, hf, ha⟩ := hlists
    obtain ⟨rfl, -, hchange, hnew⟩ := aclRuleActionOf_ok hact
    have hother : a ≠ act.action := by
      rintro rfl
      exact hne rfl
    by_cases hcnt : act.action = .counter
    · rw [updatedRule_counter hf ha hnew hchange hcnt]
      exact actionOid_counterUpdated _ hcnt (hcnt ▸ hother)
    · rw [updatedRule_action hf ha hnew hchange hcnt]
      exact actionOid_actionsAfter_other hother
  | tableId | priority | adminState | unknown n | outOfRange n =>
    rw [updatedRule_scalar hlists.1 hlists.2]
    rfl

/-- **A set gives the action that it is about its object**, if there is memory for an enabled
action that is new to the rule. The counter is another matter. -/
theorem RuleUpdated.actionOid_self (h : RuleUpdated env acl_id attr db p present modify given)
    (hid : attr.id = .action a) (hida : aclIdAction a = true) (hcnt : a ≠ .counter)
    (havail : attr.value.enable = true → a ∉ actionIds present.action_list →
      env.avail .newActions = true) :
    actionOid a given.action_list =
      if attr.value.enable then attr.value.data.getOid else .null := by
  obtain ⟨table, -, hmodify⟩ := h.made
  obtain ⟨d, -, -, rfl⟩ := h.given
  have hlists := aclRuleModify_lists hmodify
  obtain ⟨id, value⟩ := attr
  obtain rfl : id = .action a := hid
  obtain ⟨act, hact, hf, ha⟩ := hlists
  have hoid := aclRuleActionOf_oid (env.attr_types.of_idAction hida) hact
  obtain ⟨rfl, hen, hchange, hnew⟩ := aclRuleActionOf_ok hact
  rw [updatedRule_action hf ha hnew hchange hcnt]
  have hobj : aclObjectListActionAttr act.action = false := by
    cases hact' : act.action <;> simp_all [aclIdAction, aclObjectListActionAttr]
  have hself := actionOid_actionsAfter_self hobj (l := present.action_list)
    fun henable => havail (hen ▸ henable)
  refine hself.trans ?_
  rw [hen, hoid]
  rfl

end OpxSai
