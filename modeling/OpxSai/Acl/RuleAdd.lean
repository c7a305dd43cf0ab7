import OpxSai.Acl.RuleStored

/-!
# A field or an action by set, and by create

A create fills a rule from its attributes. A set fills a scan rule in the same way, and then copies
what is new from there, member by member where the value is a list.

* `aclRuleSet_sameStored_iff` — the main result.
-/

namespace OpxSai

open AclDb

variable {env : AclEnv} {index : Nat} {value : AclAttrValue} {table : AclTable} {attr : AclAttr}
variable {rule rule' modify given mid mid' : AclRule} {act : AclAction} {field : AclField}
variable {filter : AclFilter} {db : AclDb}
  {attrs : List AclAttr} {action : AclActionId}

@[simp] theorem AclValue.objs_zero : AclValue.zero.objs = [] := rfl

@[simp] theorem AclValue.objs_objlist (list) : (AclValue.objlist list).objs = list := rfl

/-! ## One attribute more -/

theorem aclRulePopulateAttrs_append
    (h : aclRulePopulateAttrs env table index (attrs ++ [attr]) rule = .ok rule') :
    ∃ mid, aclRulePopulateAttrs env table index attrs rule = .ok mid ∧
      aclRulePopulateAttr env table (index + attrs.length) attr mid = .ok rule' := by
  induction attrs generalizing index rule with
  | nil =>
    simp only [List.nil_append, aclRulePopulateAttrs] at h
    split at h
    · cases h
    rename_i mid hmid
    cases h
    exact ⟨rule, rfl, hmid⟩
  | cons b attrs ih =>
    simp only [List.cons_append, aclRulePopulateAttrs] at h
    split at h
    · cases h
    rename_i mid hmid
    obtain ⟨mid', hattrs, hlast⟩ := ih h
    refine ⟨mid', ?_, ?_⟩
    · simp only [aclRulePopulateAttrs]
      rw [hmid]
      exact hattrs
    · rw [List.length_cons, Nat.add_comm attrs.length, ← Nat.add_assoc]
      exact hlast

/-- Two computations have the same result wherever both have one. -/
def OkAgree {ε α : Type} (x y : Except ε α) : Prop := ∀ a b, x = .ok a → y = .ok b → a = b

namespace OkAgree

variable {ε α : Type} {c d : Prop} [Decidable c] [Decidable d] {e e' : ε} {x x' y y' : Except ε α}

theorem refl (x : Except ε α) : OkAgree x x := fun _ _ ha hb => Except.ok.inj (ha.symm.trans hb)

theorem guard (h : OkAgree x y) : OkAgree (if c then .error e else x) (if d then .error e' else y) := by
  intro a b ha hb
  split at ha
  · cases ha
  split at hb
  · cases hb
  exact h a b ha hb

theorem ite (h : OkAgree x y) (k : OkAgree x' y') : OkAgree (if c then x else x') (if c then y else y') := by
  split
  · exact h
  · exact k

end OkAgree

theorem aclRuleActionOf_index {i j : Nat} {act'}
    (h : aclRuleActionOf env i action value = .ok act) (h' : aclRuleActionOf env j action value = .ok act') :
    act = act' := by
  have htype : ∀ b, OkAgree (aclRuleActionPopulateAttrType env i b value)
      (aclRuleActionPopulateAttrType env j b value) := by
    intro b
    unfold aclRuleActionPopulateAttrType
    cases env.attr_types.typeOf (.action b.action) with
    | objectList =>
      -- the place decides whose memory there is, and not what is put there
      exact .guard (.ite (.guard (.guard (.guard (.refl _)))) (.refl _))
    | _ => exact .refl _
  unfold aclRuleActionOf at h h'
  split at h
  · cases h
  rename_i mid hmid
  split at h'
  · cases h'
  rename_i mid' hmid'
  cases h
  cases h'
  exact htype _ _ _ hmid hmid'

theorem aclRuleFilterOf_index {i j : Nat} {filter'} (hrange : field ≠ .rangeType)
    (h : aclRuleFilterOf env table i field value = .ok filter)
    (h' : aclRuleFilterOf env table j field value = .ok filter') : filter = filter' := by
  have htype : ∀ b, aclRangeAttr b.field = false → OkAgree (aclRuleFilterPopulateAttrType env i b value)
      (aclRuleFilterPopulateAttrType env j b value) := by
    intro b hb
    unfold aclRuleFilterPopulateAttrType
    cases env.attr_types.typeOf (.field b.field) with
    | objectList =>
      simp only [aclRuleFilterPopulateObjectList, hb, Bool.false_eq_true, if_false]
      exact .ite (.guard (.ite (.guard (.guard (.guard (.refl _)))) (.refl _))) (.refl _)
    | oneByteList => exact .guard (.ite (.guard (.refl _)) (.refl _))
    | _ => exact .refl _
  have hstage : aclRangeAttr (aclStageField table field) = false := by
    unfold aclStageField
    split
    · rfl
    · cases field <;> simp_all [aclRangeAttr]
  unfold aclRuleFilterOf at h h'
  split at h
  · cases h
  rename_i mid hmid
  split at h'
  · cases h'
  rename_i mid' hmid'
  obtain rfl := htype _ hstage _ _ hmid hmid'
  cases field with
  | udf n =>
    dsimp only at h h'
    split at h
    · cases h
    rename_i filled hfilled
    rw [hfilled] at h'
    exact (Except.ok.inj h).symm.trans (Except.ok.inj h')
  | _ => exact (Except.ok.inj h).symm.trans (Except.ok.inj h')

/-- A port list becomes a list in the union, or nothing when it is not enabled. -/
theorem aclRuleFilterOf_objectList (hobj : aclObjectListFieldAttr field = true)
    (h : aclRuleFilterOf env table index field value = .ok filter) :
    filter = { AclFilter.new field value.enable with
      match_data := if value.enable then .objlist value.data.objs else .zero } ∧
    (value.enable = true → value.data.objs ≠ []) := by
  have hfield : field = .inPorts ∨ field = .outPorts := by
    cases field <;> simp_all [aclObjectListFieldAttr]
  have hstage : aclStageField table field = field := by
    unfold aclStageField
    rw [if_neg]
    rintro ⟨rfl, -⟩
    exact absurd hobj (by simp [aclObjectListFieldAttr])
  have hport : aclPortlistAttr field = true := by
    rcases hfield with rfl | rfl <;> rfl
  have hrange : aclRangeAttr field = false := by
    rcases hfield with rfl | rfl <;> rfl
  have htype : env.attr_types.typeOf (.field field) = .objectList :=
    env.attr_types.objectList _ (by rcases hfield with rfl | rfl <;> simp)
  have hpop : aclRuleFilterPopulateAttrType env index (.new field value.enable) value =
      .ok filter := by
    unfold aclRuleFilterOf at h
    rw [hstage] at h
    split at h
    · cases h
    rename_i mid hmid
    rw [hmid]
    rcases hfield with rfl | rfl <;> exact h
  unfold aclRuleFilterPopulateAttrType at hpop
  have hnew : (AclFilter.new field value.enable).field = field := rfl
  rw [hnew, htype] at hpop
  simp only [aclRuleFilterPopulateObjectList, hnew, hrange, hport, Bool.false_eq_true, if_false,
    if_true] at hpop
  split at hpop
  · cases hpop
  rename_i hempty
  by_cases hen : value.enable = true
  · rw [if_pos hen] at hpop
    split at hpop
    · cases hpop
    split at hpop
    · cases hpop
    split at hpop
    · cases hpop
    cases hpop
    refine ⟨?_, fun _ hnil => hempty ⟨hnil, hen⟩⟩
    rw [if_pos hen, hen]
    rfl
  · rw [if_neg hen] at hpop
    cases hpop
    refine ⟨?_, fun hyes => absurd hyes hen⟩
    rw [if_neg hen]
    rfl

/-- A range becomes a list in the union if nothing is wrong with it, and otherwise nothing. -/
theorem aclRuleFilterOf_range (h : aclRuleFilterOf env table index .rangeType value = .ok filter) :
    filter = { AclFilter.new .rangeType value.enable with
      match_data := if value.enable ∧ value.data.objs ≠ [] ∧
          aclCheckObjs (aclValidateObjectType (.field .rangeType)) value.data.objs = .success ∧
          env.avail (.fieldValue index) = true
        then .objlist value.data.objs else .zero } := by
  have htype : env.attr_types.typeOf (.field .rangeType) = .objectList :=
    env.attr_types.objectList _ (by simp)
  have hstage : aclStageField table .rangeType = .rangeType := if_neg (by simp)
  have hnew : (AclFilter.new .rangeType value.enable).field = .rangeType := rfl
  have hrange : aclRangeAttr .rangeType = true := rfl
  unfold aclRuleFilterOf aclRuleFilterPopulateAttrType at h
  rw [hstage, hnew, htype] at h
  simp only [aclRuleFilterPopulateObjectList, aclRuleFilterPopulateRange, hnew, hrange,
    if_true] at h
  by_cases hen : value.enable = true
  · by_cases hempty : value.data.objs = []
    · simp [AclFilter.new, hen, hempty, aclPortlistAttr] at h
      simp [AclFilter.new, hempty, ← h, hen]
    by_cases hvalid : aclCheckObjs (aclValidateObjectType (.field .rangeType))
        value.data.objs = .success
    · by_cases havail : env.avail (.fieldValue index) = true
      · simp [AclFilter.new, hen, hempty, hvalid, havail, aclPortlistAttr] at h
        simp [AclFilter.new, hempty, ← h, hen, hvalid, havail]
      · simp [AclFilter.new, hen, hempty, hvalid, havail, aclPortlistAttr] at h
        simp [AclFilter.new, hempty, ← h, hen, hvalid, havail]
    · simp [AclFilter.new, hen, hempty, hvalid, aclPortlistAttr] at h
      simp [AclFilter.new, hempty, ← h, hen, hvalid]
  · simp [AclFilter.new, hen, aclPortlistAttr] at h
    simp [AclFilter.new, ← h, hen]

theorem aclRuleFilterOf_udf {index n : Nat}
    (h : aclRuleFilterOf env table index (.udf n) value = .ok filter) :
    filter.udf_field.udf_group_id ≠ .null := by
  unfold aclRuleFilterOf at h
  split at h
  · cases h
  dsimp only at h
  split at h
  · cases h
  rename_i filled hfilled
  cases h
  simp only [aclRuleUdfFilterPopulate] at hfilled
  split at hfilled
  · cases hfilled
  rename_i hgroup
  split at hfilled
  · cases hfilled
  cases hfilled
  exact hgroup

/-- A list of objects of an action becomes a list in the union, or nothing when it is not
enabled. -/
theorem aclRuleActionOf_objectList (hobj : aclObjectListActionAttr action = true)
    (h : aclRuleActionOf env index action value = .ok act) :
    act = { AclAction.new action value.enable with
      parameter := if value.enable then .objlist value.data.objs else .zero } ∧
    (value.enable = true → value.data.objs ≠ []) := by
  have htype : env.attr_types.typeOf (.action action) = .objectList := by
    refine env.attr_types.actionList _ ?_
    cases action <;> simp_all [aclObjectListActionAttr]
  have hnew : (AclAction.new action value.enable).action = action := rfl
  have hnewen : (AclAction.new action value.enable).enable = value.enable := rfl
  unfold aclRuleActionOf aclRuleActionPopulateAttrType at h
  rw [hnew, htype] at h
  simp only [aclRuleActionPopulateObjectList, hnewen] at h
  by_cases hempty : value.data.objs = [] ∧ value.enable = true
  · rw [if_pos hempty] at h
    cases h
  rw [if_neg hempty] at h
  by_cases hen : value.enable = true
  · rw [if_pos hen] at h
    split at h
    · cases h
    rename_i mid hmid
    split at hmid
    · cases hmid
    split at hmid
    · cases hmid
    split at hmid
    · cases hmid
    cases hmid
    cases h
    refine ⟨?_, fun _ hnil => hempty ⟨hnil, hen⟩⟩
    rw [if_pos hen]
    rfl
  · rw [if_neg hen] at h
    cases h
    refine ⟨?_, fun hyes => absurd hyes hen⟩
    rw [if_neg hen]
    rfl

/-! ## What the attributes before it have made -/

/-- The attributes name a field that the rules of the table keep as `field`. -/
def NamesField (table : AclTable) (attrs : List AclAttr) (field : AclField) : Prop :=
  ∃ b ∈ attrs, ∃ g, b.id = .field g ∧ aclStageField table g = field

def NamesPolicer (attrs : List AclAttr) : Prop :=
  ∃ b ∈ attrs, b.id = .action .setPolicer ∧ b.value.enable = true

theorem aclRulePopulateAttrs_fields
    (h : aclRulePopulateAttrs env table index attrs rule = .ok rule') (field) :
    field ∈ rule'.filter_list.map (·.field) ↔
      field ∈ rule.filter_list.map (·.field) ∨ NamesField table attrs field := by
  induction attrs generalizing index rule with
  | nil =>
    cases h
    simp [NamesField]
  | cons attr attrs ih =>
    simp only [aclRulePopulateAttrs] at h
    split at h
    · cases h
    rename_i mid hmid
    rw [ih h]
    have hcons : NamesField table (attr :: attrs) field ↔
        (∃ g, attr.id = .field g ∧ aclStageField table g = field) ∨
          NamesField table attrs field := by
      simp [NamesField]
    rw [hcons, ← or_assoc]
    refine or_congr_left ?_
    obtain ⟨id, value⟩ := attr
    cases id with
    | field g =>
      simp only [aclRulePopulateAttr] at hmid
      split at hmid
      · cases hmid
      rename_i filter hfilter
      cases hmid
      obtain ⟨hfield, -⟩ := aclRuleFilterOf_ok hfilter
      simp [hfield, eq_comm]
    | action action =>
      simp only [aclRulePopulateAttr] at hmid
      split at hmid
      · cases hmid
      obtain ⟨-, -, hfilters, -⟩ := aclRuleActionIds_ok hmid
      rw [hfilters]
      simp
    | tableId | priority | adminState =>
      cases hmid
      simp
    | unknown n => exact absurd hmid (by simp [aclRulePopulateAttr])
    | outOfRange n => exact absurd hmid (by simp [aclRulePopulateAttr])

theorem aclRuleActionIds_oid (hida : aclIdAction action = true)
    (h : aclRuleActionIds env index action value rule = .ok rule') (hen : value.enable = true) :
    value.data.getOid ≠ .null := by
  intro hnull
  cases action <;> simp_all [aclRuleActionIds, aclIdAction]

theorem aclRulePopulateAttrs_policer (h : aclRulePopulateAttrs env table index attrs rule = .ok rule') :
    rule'.policer_id ≠ .null ↔ rule.policer_id ≠ .null ∨ NamesPolicer attrs := by
  induction attrs generalizing index rule with
  | nil =>
    cases h
    simp [NamesPolicer]
  | cons attr attrs ih =>
    simp only [aclRulePopulateAttrs] at h
    split at h
    · cases h
    rename_i mid hmid
    rw [ih h]
    have hcons : NamesPolicer (attr :: attrs) ↔
        (attr.id = .action .setPolicer ∧ attr.value.enable = true) ∨ NamesPolicer attrs := by
      simp [NamesPolicer]
    rw [hcons, ← or_assoc]
    refine or_congr_left ?_
    obtain ⟨id, value⟩ := attr
    cases id with
    | field g =>
      simp only [aclRulePopulateAttr] at hmid
      split at hmid
      · cases hmid
      cases hmid
      simp
    | action action =>
      simp only [aclRulePopulateAttr] at hmid
      split at hmid
      · cases hmid
      obtain ⟨hids, -⟩ := aclRuleActionIds_ok hmid
      have hpol : mid.policer_id = if .setPolicer = action ∧ aclIdAction .setPolicer = true ∧
          value.enable = true then value.data.getOid else rule.policer_id := hids .setPolicer
      by_cases hthis : action = .setPolicer ∧ value.enable = true
      · obtain ⟨rfl, hen⟩ := hthis
        rw [hpol, if_pos ⟨rfl, rfl, hen⟩]
        exact ⟨fun _ => .inr ⟨rfl, hen⟩, fun _ => aclRuleActionIds_oid rfl hmid hen⟩
      rw [hpol, if_neg fun hand => hthis ⟨hand.1.symm, hand.2.2⟩]
      refine ⟨.inl, ?_⟩
      rintro (hold | ⟨hid, hen⟩)
      · exact hold
      · exact absurd ⟨by simpa using hid, hen⟩ hthis
    | tableId | priority | adminState =>
      cases hmid
      simp
    | unknown n => exact absurd hmid (by simp [aclRulePopulateAttr])
    | outOfRange n => exact absurd hmid (by simp [aclRulePopulateAttr])

/-! ## What the set appends -/

/-- A range that create puts into the rule needs the memory that the set needs for it. Where it has
none, the error is not looked at, and the rule has an empty range. -/
def RangeKept (env : AclEnv) (index : Nat) (value : AclAttrValue) : Prop :=
  value.enable = true → value.data.objs ≠ [] →
    aclCheckObjs (aclValidateObjectType (.field .rangeType)) value.data.objs = .success →
    env.avail (.fieldValue 0) = env.avail (.fieldValue index)

theorem filtersAfter_append_iff (env) (scan new) (l) :
    filtersAfter env scan l = l ++ [new] ↔
      scan.field ∉ l.map (·.field) ∧ env.avail .newFields = true ∧
        aclRuleNewFilter env { scan with new_field := true } = (.success, new) := by
  have hshort : l ≠ l ++ [new] := by
    intro heq
    have hlen := congrArg List.length heq
    simp at hlen
  unfold filtersAfter
  cases hfind : l.find? fun g => decide (g.field = scan.field) with
  | some g =>
    have hin : scan.field ∈ l.map (·.field) := by
      have hg : g.field = scan.field := by simpa using List.find?_some hfind
      exact hg ▸ List.mem_map_of_mem (List.mem_of_find?_eq_some hfind)
    refine iff_of_false ?_ (fun hand => hand.1 hin)
    dsimp only
    split
    · intro heq
      -- a write does not make the list longer
      have hmap := map_updateFirst (fun g : AclFilter => decide (g.field = scan.field))
        (aclRuleUpdateFilter env { scan with field_change := true } g).2 (fun _ => ())
        (fun _ _ => rfl) l
      have hlen := congrArg List.length hmap
      rw [heq] at hlen
      simp at hlen
    · exact hshort
  | none =>
    have hnot : scan.field ∉ l.map (·.field) := by
      intro hin
      obtain ⟨g, hg, heq⟩ := List.mem_map.mp hin
      have hno := List.find?_eq_none.mp hfind g hg
      exact absurd heq (by simpa using hno)
    dsimp only
    by_cases havail : env.avail .newFields = true
    · rw [if_neg (by simp [havail])]
      generalize hx : aclRuleNewFilter _ _ = x
      obtain ⟨rc, filter⟩ := x
      by_cases hok : rc = .success
      · subst hok
        simp [hnot, havail]
      · simp [hok]
    · rw [if_pos (by simp [havail])]
      exact iff_of_false hshort (fun hand => havail hand.2.1)

/-- **A field that is new to the rule** is what it is at create, if it is not a user defined one
and there is memory for its list. -/
theorem aclRuleNewFilter_iff
    {scan new} (hscan : aclRuleFilterOf env table 0 field value = .ok scan)
    (hnew : aclRuleFilterOf env table index field value = .ok new) :
    aclRuleNewFilter env { scan with new_field := true } = (.success, new) ↔
      aclUdfFieldAttrRange field = false ∧
      (aclObjectListFieldAttr field = true → value.enable = true →
        env.avail .updateValue = true) ∧
      (field = .rangeType → RangeKept env index value) := by
  obtain ⟨hfield, hen, -, hmark⟩ := aclRuleFilterOf_ok hscan
  by_cases hobj : aclObjectListFieldAttr field = true
  · -- a port list: copied member by member
    have hrange : field ≠ .rangeType := by
      rintro rfl
      exact absurd hobj (by simp [aclObjectListFieldAttr])
    have hudf : aclUdfFieldAttrRange field = false := by
      cases field <;> simp_all [aclObjectListFieldAttr, aclUdfFieldAttrRange]
    obtain rfl := aclRuleFilterOf_index hrange hscan hnew
    obtain ⟨rfl, hlist⟩ := aclRuleFilterOf_objectList hobj hscan
    simp only [aclRuleNewFilter, AclFilter.new, hobj, if_true, aclRuleUpdateObjectList]
    cases hval : value.enable with
    | true =>
      have hne := hlist hval
      cases havail : env.avail .updateValue with
      | true => simp [hne, hudf, hrange]
      | false => simp [hne]
    | false => simp [hudf, hrange]
  have hobjstage : aclObjectListFieldAttr scan.field = false := by
    rw [hfield]
    unfold aclStageField
    split
    · rfl
    · simpa using hobj
  by_cases hudf : aclUdfFieldAttrRange field = true
  · -- a user defined field: its group is not copied
    obtain ⟨n, rfl⟩ : ∃ n, field = .udf n := by
      cases field <;> simp_all [aclUdfFieldAttrRange]
    refine iff_of_false (fun heq => ?_) (fun hand => absurd hand.1 (by simp [hudf]))
    have hstage : scan.field = .udf n := by
      rw [hfield]
      exact if_neg (by simp)
    have hlost : (aclRuleNewFilter env { scan with new_field := true }).2.udf_field = .zero := by
      simp only [aclRuleNewFilter, hobjstage, hstage, hudf, if_true]
      rfl
    rw [heq] at hlost
    refine aclRuleFilterOf_udf hnew ?_
    rw [show new.udf_field = .zero from hlost]
    rfl
  · -- any other field: copied as a whole
    have hudfstage : aclUdfFieldAttrRange scan.field = false := by
      rw [hfield]
      unfold aclStageField
      split
      · rfl
      · simpa using hudf
    have hcopy : aclRuleNewFilter env { scan with new_field := true } = (.success, scan) := by
      simp only [aclRuleNewFilter, hobjstage, hudfstage, Bool.false_eq_true, if_false]
      rw [← hmark]
    rw [hcopy]
    by_cases hrange : field = .rangeType
    · subst hrange
      have h₁ := aclRuleFilterOf_range hscan
      have h₂ := aclRuleFilterOf_range hnew
      rw [h₁, h₂]
      unfold RangeKept
      by_cases henabled : value.enable = true
      · by_cases hempty : value.data.objs = []
        · simp [hempty, aclObjectListFieldAttr, aclUdfFieldAttrRange]
        by_cases hvalid : aclCheckObjs (aclValidateObjectType (.field .rangeType))
            value.data.objs = .success
        · cases hz : env.avail (.fieldValue 0) <;> cases hi : env.avail (.fieldValue index) <;>
            simp [henabled, hempty, hvalid, hz, hi, aclObjectListFieldAttr, aclUdfFieldAttrRange]
        · simp [hvalid, aclObjectListFieldAttr, aclUdfFieldAttrRange]
      · simp [henabled, aclObjectListFieldAttr, aclUdfFieldAttrRange]
    · obtain rfl := aclRuleFilterOf_index hrange hscan hnew
      simp [hobj, hudf, hrange]

/-- **An action that is new to the rule** is what it is at create, if there is memory for it. -/
theorem actionsAfter_append_iff {scan new} {l}
    (hscan : aclRuleActionOf env 0 action value = .ok scan)
    (hnew : aclRuleActionOf env index action value = .ok new) (hfresh : action ∉ actionIds l) :
    actionsAfter env scan l = l ++ [new] ↔
      env.avail .newActions = true ∧ (aclObjectListActionAttr action = true → value.enable = true →
        env.avail .updateValue = true) := by
  obtain rfl := aclRuleActionOf_index hscan hnew
  obtain ⟨hid, -, -, hmark⟩ := aclRuleActionOf_ok hscan
  have hfind : (l.find? fun g => decide (g.action = scan.action)) = none := by
    rw [List.find?_eq_none]
    intro g hg
    simp only [decide_eq_true_eq]
    intro heq
    exact hfresh (hid ▸ heq ▸ List.mem_map_of_mem hg)
  unfold actionsAfter
  rw [hfind]
  dsimp only
  by_cases havail : env.avail .newActions = true
  · rw [if_neg (by simp [havail])]
    by_cases hobj : aclObjectListActionAttr action = true
    · rw [if_pos (hid ▸ hobj)]
      obtain ⟨rfl, hlist⟩ := aclRuleActionOf_objectList hobj hscan
      simp only [AclAction.new, aclRuleUpdateObjectList]
      cases hval : value.enable with
      | true =>
        have hne := hlist hval
        cases hmem : env.avail .updateValue with
        | true => simp [hne, havail]
        | false => simp [hne, hobj]
      | false => simp [havail]
    · rw [if_neg (hid ▸ hobj), ← hmark]
      simp [havail, hobj]
  · rw [if_pos (by simp [havail])]
    simp [havail]

/-- The set of the counter action of a rule that has none appends the action, and the rule has the
counter, if there is memory and the NPU attaches an enabled counter. -/
theorem counterUpdated_append_iff
    {d} (hfresh : .counter ∉ actionIds given.action_list) (hnone : given.counter_id = .null)
    (htree : act.enable = true → d.counter_tree modify.counter_id ≠ none) :
    (counterUpdated env modify given act d).1.action_list = given.action_list ++ [act] ∧
      (counterUpdated env modify given act d).1.counter_id =
        (if act.enable then modify.counter_id else given.counter_id) ↔
      env.avail .newActions = true ∧ (act.enable = true →
        env.status d.npu_log (.attachCntr given.acl_id modify.counter_id) = .success) := by
  have hfind : (given.action_list.find? fun g => decide (g.action = .counter)) = none := by
    rw [List.find?_eq_none]
    intro g hg
    simp only [decide_eq_true_eq]
    intro heq
    exact hfresh (heq ▸ List.mem_map_of_mem hg)
  have hupd : aclRuleUpdateCounterAction env modify given act.enable d =
      if act.enable then
        (env.status d.npu_log (.attachCntr given.acl_id modify.counter_id),
          { given with counter_id := modify.counter_id },
          (d.call env (.attachCntr given.acl_id modify.counter_id)).2)
      else (.success, given, d) := by
    simp only [aclRuleUpdateCounterAction, hnone]
    cases hen : act.enable with
    | true =>
      obtain ⟨tid, htid⟩ := Option.ne_none_iff_exists'.mp (htree hen)
      simp [attachCntrToAclRule, htid, AclDb.call]
    | false => simp
  unfold counterUpdated
  rw [hfind, hupd]
  dsimp only
  by_cases havail : env.avail .newActions = true
  · cases hen : act.enable with
    | true =>
      by_cases hok : env.status d.npu_log (.attachCntr given.acl_id modify.counter_id) = .success
      · simp [havail, hok]
      · simp [havail, hok]
    | false => simp [havail]
  · simp [havail]

theorem counterUpdated_frame {env} {modify given} {act} {d} :
    (counterUpdated env modify given act d).1.filter_list = given.filter_list ∧
      ∀ direction, (counterUpdated env modify given act d).1.samplepacket_id direction =
        given.samplepacket_id direction := by
  obtain ⟨c, hrule⟩ := aclRuleUpdateCounterAction_rule
  unfold counterUpdated
  generalize aclRuleUpdateCounterAction _ _ _ _ d = x at hrule
  obtain ⟨rc, rule, d'⟩ := x
  obtain rfl : rule = { given with counter_id := c } := hrule
  dsimp only
  repeat' split
  all_goals exact ⟨rfl, fun direction => by cases direction <;> rfl⟩

/-- What a rule stores for its fields and its actions. -/
structure SameStored (rule rule' : AclRule) : Prop where
  filter_list : rule.filter_list = rule'.filter_list
  action_list : rule.action_list = rule'.action_list
  counter_id : rule.counter_id = rule'.counter_id
  policer_id : rule.policer_id = rule'.policer_id
  samplepacket_id : ∀ direction, rule.samplepacket_id direction = rule'.samplepacket_id direction

theorem namedTable_append (hid : attr.id ≠ .tableId) (table_id) (attrs) :
    namedTable table_id (attrs ++ [attr]) = namedTable table_id attrs := by
  induction attrs generalizing table_id with
  | nil => exact congrArg (fun t => namedTable t []) (if_neg hid)
  | cons b attrs ih => exact ih _

/-- The rule that a create stores: what the attributes make, with an id of its own. -/
theorem aclRuleCreate_made (hok : (aclRuleCreate env attrs db).1 = .success)
    (hget : (aclRuleCreate env attrs db).2.rules.get db.rules.next = some rule) :
    ∃ table mid, db.table_tree (namedTable .null attrs) = some table ∧
      (attrs.map (·.id)).Nodup ∧ aclRulePopulateAttrs env table 0 attrs .zero = .ok mid ∧
      SameStored mid rule ∧ rule.table_id = namedTable .null attrs ∧ IdsFit mid ∧
      aclRuleFind rule.acl_id (aclRuleCreate env attrs db).2 = some (db.rules.next, rule) ∧
      ∀ t, (aclRuleCreate env attrs db).2.kindOf t = db.kindOf t := by
  rcases aclRuleCreate_installs_or with ⟨hfail, -⟩ | ⟨tid, rule', d, hinst⟩
  · exact absurd hok hfail
  obtain ⟨hfind, hkind⟩ := hinst.stored hok
  obtain rfl : rule' = rule := by
    have hget' := (aclRuleFind_some hfind).2
    rw [hget] at hget'
    exact (Option.some.inj hget').symm
  obtain ⟨counts, table, rule₀, n, hcheck, -, hid, htable, -, hpop, -, -, rfl, -⟩ := hinst.made
  obtain ⟨hnodup, hnamed⟩ := aclCheckRuleAttributes_ok hcheck
  have htid : namedTable .null attrs = tid := hnamed.symm.trans hid
  obtain ⟨-, htable₀, -⟩ := aclRulePopulate_ok hpop rfl (fun a => by cases a <;> rfl) hnodup
  unfold aclRulePopulate at hpop
  split at hpop
  · cases hpop
  split at hpop
  · cases hpop
  rename_i mid hmid
  have hsame : SameStored mid rule₀ ∧ rule₀.table_id = mid.table_id := by
    cases hpop
    split
    · exact ⟨⟨rfl, rfl, rfl, rfl, fun _ => rfl⟩, rfl⟩
    · exact ⟨⟨rfl, rfl, rfl, rfl, fun direction => by cases direction <;> rfl⟩, rfl⟩
  have hfit : IdsFit mid := by
    obtain ⟨-, -, -, hids⟩ := aclRulePopulateAttrs_ok hmid
    exact hids (fun a _ => by cases a <;> rfl) (nodup_filterMap_actionId hnodup)
  refine ⟨table, mid, htid ▸ htable, hnodup, hmid, ?_, htable₀, hfit, hfind, hkind⟩
  obtain ⟨hfilters, hactions, hcnt, hpol, hsample⟩ := hsame.1
  exact ⟨hfilters, hactions, hcnt, hpol, fun direction => by
    cases direction with
    | ingress => exact hsample .ingress
    | egress => exact hsample .egress⟩

/-! ## The main result -/

/-- The NPU attaches the counter of the attribute when it is asked for it, after the two calls that
every set makes. -/
def CounterAttaches (env : AclEnv) (table : AclTable) (rule : AclRule) (attr : AclAttr)
    (db : AclDb) : Prop :=
  ∀ modify, aclRuleModify env table rule attr = .ok modify →
    env.status (setLog modify rule db.npu_log)
      (.attachCntr rule.acl_id attr.value.data.getOid) = .success

/-- The condition: the field is not user defined and not kept in the place of another one, the
action is not an enabled sample action, a policer of the rule is the one that is set, and what fails
in the update, and is only logged there, does not fail: the memory for the new field or action, for
its list, and the counter. -/
def SetAddsAsCreate (env : AclEnv) (table : AclTable) (attrs : List AclAttr) (attr : AclAttr)
    (rule : AclRule) (db : AclDb) : Prop :=
  match attr.id with
  | .field field =>
    aclUdfFieldAttrRange field = false ∧
    ¬NamesField table attrs (aclStageField table field) ∧
    ¬NamesPolicer attrs ∧
    env.avail .newFields = true ∧
    (aclObjectListFieldAttr field = true → attr.value.enable = true →
      env.avail .updateValue = true) ∧
    (field = .rangeType → RangeKept env attrs.length attr.value)
  | .action action =>
    (action ≠ .setPolicer → ¬NamesPolicer attrs) ∧
    (aclGetSampleDirection action ≠ none → attr.value.enable = false) ∧
    env.avail .newActions = true ∧
    (aclObjectListActionAttr action = true → attr.value.enable = true →
      env.avail .updateValue = true) ∧
    (action = .counter → attr.value.enable = true → CounterAttaches env table rule attr db)
  | _ => True

theorem field_sameStored_iff {acl_id} {p} {table table'}
    {present} (hid : attr.id = .field field)
    (hmid : aclRulePopulateAttrs env table 0 attrs .zero = .ok mid)
    (hlast : aclRulePopulateAttr env table (0 + attrs.length) attr mid = .ok mid')
    (hsame : SameStored mid present) (hkind : table'.kind = table.kind)
    (htable : db.table_tree present.table_id = some table')
    (hupd : RuleUpdated env acl_id attr db p present modify given) :
    SameStored { given with policer_id := modify.policer_id } mid' ↔
      SetAddsAsCreate env table attrs attr present db := by
  obtain ⟨table'', htable', hmodify⟩ := hupd.made
  obtain rfl : table' = table'' := Option.some.inj (htable.symm.trans htable')
  rw [aclRuleModify_congr hkind] at hmodify
  obtain ⟨d, -, -, rfl⟩ := hupd.given
  have hlists := aclRuleModify_lists hmodify
  have hpolicer : modify.policer_id = .null :=
    (aclRuleModify_ids hmodify .setPolicer).trans (if_neg (by simp [hid]))
  obtain ⟨id, value⟩ := attr
  obtain rfl : id = .field field := hid
  obtain ⟨scan, hscan, hf, ha⟩ := hlists
  obtain ⟨hfield, -, hchange, hnewmark⟩ := aclRuleFilterOf_ok hscan
  simp only [aclRulePopulateAttr] at hlast
  split at hlast
  · cases hlast
  rename_i new hnew
  cases hlast
  rw [Nat.zero_add] at hnew
  rw [updatedRule_field hf ha hnewmark hchange]
  have hlist := filtersAfter_append_iff env scan new present.filter_list
  rw [aclRuleNewFilter_iff hscan hnew] at hlist
  have hfields := aclRulePopulateAttrs_fields hmid (aclStageField table field)
  have hpols := aclRulePopulateAttrs_policer hmid
  have hzero : aclStageField table field ∉ AclRule.zero.filter_list.map (·.field) := by
    simp [AclRule.zero]
  have hstored : SameStored { (updatedScalars env modify present) with
      filter_list := filtersAfter env scan present.filter_list
      policer_id := modify.policer_id } { mid with filter_list := mid.filter_list ++ [new] } ↔
      filtersAfter env scan present.filter_list = present.filter_list ++ [new] ∧
        mid.policer_id = .null := by
    constructor
    · intro h
      exact ⟨hsame.filter_list ▸ h.filter_list, h.policer_id.symm.trans hpolicer⟩
    · rintro ⟨hfilters, hpol⟩
      refine ⟨hfilters.trans (by rw [hsame.filter_list]), hsame.action_list.symm,
        hsame.counter_id.symm, hpolicer.trans hpol.symm, fun direction => ?_⟩
      cases direction with
      | ingress => exact (hsame.samplepacket_id .ingress).symm
      | egress => exact (hsame.samplepacket_id .egress).symm
  refine hstored.trans ?_
  rw [hlist]
  rw [hfield, ← hsame.filter_list, hfields]
  have hnopol : mid.policer_id = .null ↔ ¬NamesPolicer attrs := by
    rw [← not_iff_not, not_not, ← ne_eq, hpols]
    simp [AclRule.zero]
  rw [hnopol]
  show _ ↔ _ ∧ _ ∧ _ ∧ _ ∧ _ ∧ _
  constructor
  · rintro ⟨⟨hfresh, havail, hudf, hobj, hrange⟩, hno⟩
    exact ⟨hudf, fun hin => hfresh (.inr hin), hno, havail, hobj, hrange⟩
  · rintro ⟨hudf, hfresh, hno, havail, hobj, hrange⟩
    exact ⟨⟨fun hin => hin.elim hzero hfresh, havail, hudf, hobj, hrange⟩, hno⟩

/-- **The ids by set and by create.** The set writes the policer of the rule in any case, and
leaves its sample packet sessions. -/
theorem action_ids_iff
    {actions} (hmid : aclRulePopulateAttrs env table 0 attrs .zero = .ok mid)
    (hfit : IdsFit mid) (hfresh : action ∉ actionIds mid.action_list)
    (hlast : aclRuleActionIds env index action value { mid with action_list := actions } = .ok mid')
    (hpolicer : modify.policer_id =
      if action = .setPolicer ∧ value.enable = true then value.data.getOid else .null) :
    (modify.policer_id = mid'.policer_id ∧
      ∀ direction, mid.samplepacket_id direction = mid'.samplepacket_id direction) ↔
    (action ≠ .setPolicer → ¬NamesPolicer attrs) ∧
      (aclGetSampleDirection action ≠ none → value.enable = false) := by
  obtain ⟨hids, -⟩ := aclRuleActionIds_ok hlast
  have hpols := aclRulePopulateAttrs_policer hmid
  have hnopol : mid.policer_id = .null ↔ ¬NamesPolicer attrs := by
    rw [← not_iff_not, not_not, ← ne_eq, hpols]
    simp [AclRule.zero]
  have hnull : aclIdAction action = true → mid.actionId action = .null := fun hida =>
    (hfit action hida).trans (actionOid_of_not_mem hfresh)
  have hpol : mid'.policer_id =
      if action = .setPolicer ∧ value.enable = true then value.data.getOid else mid.policer_id := by
    refine (hids .setPolicer).trans ?_
    simp only [aclIdAction, true_and, eq_comm (a := AclActionId.setPolicer)]
    rfl
  refine and_congr ?_ ?_
  · rw [hpolicer, hpol, ← hnopol]
    by_cases hthis : action = .setPolicer
    · have hzero : mid.policer_id = .null := by
        subst hthis
        exact hnull rfl
      simp [hthis, hzero]
    · rw [if_neg fun hand => hthis hand.1, if_neg fun hand => hthis hand.1]
      exact ⟨fun h _ => h.symm, fun h => (h hthis).symm⟩
  · constructor
    · intro hsample hdir
      by_contra hen
      have hen' : value.enable = true := by simpa using hen
      have hida : aclIdAction action = true := by
        cases action <;> simp_all [aclGetSampleDirection, aclIdAction]
      have hset : mid'.actionId action = value.data.getOid :=
        (hids action).trans (if_pos ⟨rfl, hida, hen'⟩)
      have hkept : mid.actionId action = mid'.actionId action := by
        cases action with
        | ingressSamplepacketEnable => exact hsample .ingress
        | egressSamplepacketEnable => exact hsample .egress
        | counter | setPolicer | setCpuQueue | mirrorIngress | mirrorEgress | redirectList
          | other n => exact absurd rfl hdir
      rw [hset, hnull hida] at hkept
      exact aclRuleActionIds_oid hida hlast hen' hkept.symm
    · intro hno direction
      have hkeep : ∀ a, aclGetSampleDirection a = some direction →
          mid'.actionId a = mid.actionId a := by
        intro a ha
        refine (hids a).trans ?_
        rw [if_neg]
        · cases a <;> rfl
        rintro ⟨rfl, -, hen⟩
        have hoff := hno (by simp [ha])
        rw [hen] at hoff
        cases hoff
      cases direction with
      | ingress => exact (hkeep .ingressSamplepacketEnable rfl).symm
      | egress => exact (hkeep .egressSamplepacketEnable rfl).symm

theorem action_sameStored_iff {acl_id} {p} {table table'}
    {present} (hid : attr.id = .action action)
    (hmid : aclRulePopulateAttrs env table 0 attrs .zero = .ok mid) (hfit : IdsFit mid)
    (hfresh : action ∉ actionIds mid.action_list)
    (hlast : aclRulePopulateAttr env table (0 + attrs.length) attr mid = .ok mid')
    (hsame : SameStored mid present) (hkind : table'.kind = table.kind)
    (htable : db.table_tree present.table_id = some table')
    (hupd : RuleUpdated env acl_id attr db p present modify given) :
    SameStored { given with policer_id := modify.policer_id } mid' ↔
      SetAddsAsCreate env table attrs attr present db := by
  obtain ⟨table'', htable', hmodify⟩ := hupd.made
  obtain rfl : table' = table'' := Option.some.inj (htable.symm.trans htable')
  rw [aclRuleModify_congr hkind] at hmodify
  obtain ⟨d, hout, hlog, rfl⟩ := hupd.given
  have hlists := aclRuleModify_lists hmodify
  have hmodids := aclRuleModify_ids hmodify
  have hvalid := hupd.valid
  obtain ⟨id, value⟩ := attr
  obtain rfl : id = .action action := hid
  obtain ⟨scan, hscan, hf, ha⟩ := hlists
  obtain ⟨hact, hen, hchange, hnewmark⟩ := aclRuleActionOf_ok hscan
  simp only [aclRulePopulateAttr] at hlast
  split at hlast
  · cases hlast
  rename_i new hnew
  rw [Nat.zero_add] at hnew hlast
  obtain rfl := aclRuleActionOf_index hscan hnew
  obtain ⟨hids, hactions, hfilters, -⟩ := aclRuleActionIds_ok hlast
  have hpolicer : modify.policer_id =
      if action = .setPolicer ∧ value.enable = true then value.data.getOid else .null := by
    refine (hmodids .setPolicer).trans ?_
    simp [aclIdAction]
  have hsides := action_ids_iff hmid hfit hfresh hlast hpolicer
  -- the counter that create gives
  have hcounter : mid'.counter_id =
      if action = .counter ∧ value.enable = true then value.data.getOid else mid.counter_id := by
    refine (hids .counter).trans ?_
    simp only [aclIdAction, true_and, eq_comm (a := AclActionId.counter)]
    rfl
  show _ ↔ _ ∧ _ ∧ _ ∧ _ ∧ _
  -- all that is left is the list of actions and the counter
  have hstored : ∀ given : AclRule, given.filter_list = present.filter_list →
      (∀ direction, given.samplepacket_id direction = present.samplepacket_id direction) →
      (given.action_list = present.action_list ++ [scan] ∧ given.counter_id = mid'.counter_id ↔
        env.avail .newActions = true ∧
        (aclObjectListActionAttr action = true → value.enable = true →
          env.avail .updateValue = true) ∧
        (action = .counter → value.enable = true →
          CounterAttaches env table present ⟨.action action, value⟩ db)) →
      (SameStored { given with policer_id := modify.policer_id } mid' ↔
        (action ≠ .setPolicer → ¬NamesPolicer attrs) ∧
        (aclGetSampleDirection action ≠ none → value.enable = false) ∧
        env.avail .newActions = true ∧
        (aclObjectListActionAttr action = true → value.enable = true →
          env.avail .updateValue = true) ∧
        (action = .counter → value.enable = true →
          CounterAttaches env table present ⟨.action action, value⟩ db)) := by
    intro given hgf hgs hiff
    rw [← hiff, ← and_assoc, ← hsides]
    constructor
    · intro h
      refine ⟨⟨h.policer_id, fun direction => ?_⟩, ?_, h.counter_id⟩
      · refine (hsame.samplepacket_id _).trans ((hgs direction).symm.trans ?_)
        have hdir := h.samplepacket_id direction
        cases direction with
        | ingress => exact hdir
        | egress => exact hdir
      · have hlist := h.action_list
        rw [hactions, hsame.action_list] at hlist
        exact hlist
    · rintro ⟨⟨hpol, hsample⟩, hlist, hcnt⟩
      refine ⟨?_, ?_, hcnt, hpol, fun direction => ?_⟩
      · rw [hfilters]
        exact hgf.trans hsame.filter_list.symm
      · rw [hactions]
        show _ = mid.action_list ++ [scan]
        rw [hsame.action_list]
        exact hlist
      · have hdir := (hgs direction).trans ((hsame.samplepacket_id _).symm.trans
          (hsample direction))
        cases direction with
        | ingress => exact hdir
        | egress => exact hdir
  by_cases hcnt : action = .counter
  · subst hcnt
    have hnone : present.counter_id = .null := by
      rw [← hsame.counter_id]
      exact (hfit .counter rfl).trans (actionOid_of_not_mem hfresh)
    have hmodcnt : value.enable = true → modify.counter_id = value.data.getOid := by
      intro hval
      refine (hmodids .counter).trans ?_
      rw [if_pos ⟨rfl, rfl, hval⟩]
    rw [updatedRule_counter hf ha hnewmark hchange hact]
    obtain ⟨hgf, hgs⟩ := counterUpdated_frame
    refine hstored _ hgf (fun direction => (hgs direction).trans ?_) ?_
    · cases direction <;> rfl
    have htree : scan.enable = true → d.counter_tree modify.counter_id ≠ none := by
      intro hon hnot
      have hval : value.enable = true := hen ▸ hon
      have hne : modify.counter_id ≠ .null := by
        rw [hmodcnt hval]
        exact aclRuleActionIds_oid rfl hlast hval
      unfold aclValidateSetRule at hvalid
      split at hvalid
      · cases hvalid
      rw [if_pos ⟨hne, hnone ▸ hne⟩, ← hout.counter_tree, hnot] at hvalid
      cases hvalid
    have happend := @counterUpdated_append_iff env modify (updatedScalars env modify present)
      scan d (hsame.action_list ▸ hfresh) hnone htree
    have hsum : (if scan.enable = true then modify.counter_id
        else (updatedScalars env modify present).counter_id) = mid'.counter_id := by
      rw [hcounter, hen]
      cases hval : value.enable with
      | true => simp [hmodcnt hval]
      | false =>
        simp only [Bool.false_eq_true, if_false, and_false]
        exact hsame.counter_id.symm
    rw [hsum] at happend
    refine happend.trans (and_congr_right fun _ => ?_)
    simp only [aclObjectListActionAttr, Bool.false_eq_true, false_implies, true_and, true_implies]
    rw [hen]
    refine imp_congr_right fun hval => ?_
    rw [hlog, hmodcnt hval]
    constructor
    · intro hok modify' hmodify'
      obtain rfl : modify = modify' := Except.ok.inj (hmodify.symm.trans hmodify')
      exact hok
    · intro hok
      exact hok modify hmodify
  · rw [updatedRule_action hf ha hnewmark hchange (hact ▸ hcnt)]
    refine hstored _ rfl (fun direction => by cases direction <;> rfl) ?_
    have happend := actionsAfter_append_iff hscan hnew (hsame.action_list ▸ hfresh)
    have hcnt' : present.counter_id = mid'.counter_id := by
      rw [hcounter, if_neg fun hand => hcnt hand.1]
      exact hsame.counter_id.symm
    constructor
    · rintro ⟨hlist, -⟩
      obtain ⟨havail, hobj⟩ := happend.mp hlist
      exact ⟨havail, hobj, fun hthis => absurd hthis hcnt⟩
    · rintro ⟨havail, hobj, -⟩
      exact ⟨happend.mpr ⟨havail, hobj⟩, hcnt'⟩

/-- **Adding by set and adding at create.** The attributes make a rule, the rule is set a field or
an action that they do not have, and they make a rule together with it. When nothing of this fails,
both ways store the same rule if and only if the condition holds. -/
theorem aclRuleSet_sameStored_iff {env : AclEnv} {attrs : List AclAttr} {attr : AclAttr}
    {db : AclDb} {table : AclTable} {rule set added : AclRule}
    (hid : (∃ field, attr.id = .field field) ∨ ∃ action, attr.id = .action action)
    (htable : db.table_tree (namedTable .null attrs) = some table)
    (hcreated : (aclRuleCreate env attrs db).1 = .success)
    (hrule : (aclRuleCreate env attrs db).2.rules.get db.rules.next = some rule)
    (hset : (aclRuleSet env rule.acl_id attr (aclRuleCreate env attrs db).2).1 = .success)
    (hrule' : (aclRuleSet env rule.acl_id attr (aclRuleCreate env attrs db).2).2.rules.get
      db.rules.next = some set)
    (hadded : (aclRuleCreate env (attrs ++ [attr]) db).1 = .success)
    (hrule'' : (aclRuleCreate env (attrs ++ [attr]) db).2.rules.get db.rules.next = some added) :
    SameStored set added ↔
      SetAddsAsCreate env table attrs attr rule (aclRuleCreate env attrs db).2 := by
  obtain ⟨table₁, mid, htable₁, -, hmid, hsame, hnamed, hfit, hfind, hkind⟩ :=
    aclRuleCreate_made hcreated hrule
  obtain rfl : table = table₁ := Option.some.inj (htable.symm.trans htable₁)
  obtain ⟨table₂, mid', htable₂, hnodup, hpop, hsame', -⟩ := aclRuleCreate_made hadded hrule''
  have hnotable : attr.id ≠ .tableId := by
    rcases hid with ⟨field, hid⟩ | ⟨action, hid⟩ <;> rw [hid] <;> simp
  rw [namedTable_append hnotable] at htable₂
  obtain rfl : table = table₂ := Option.some.inj (htable.symm.trans htable₂)
  obtain ⟨mid₁, hmid₁, hlast⟩ := aclRulePopulateAttrs_append hpop
  obtain rfl : mid = mid₁ := Except.ok.inj (hmid.symm.trans hmid₁)
  -- the set works on the rule that was created
  obtain ⟨p, present, modify, given, hupd, hstored, -, -⟩ := aclRuleSet_stored hset
  have hsome := hupd.find
  rw [hfind] at hsome
  obtain ⟨rfl, rfl⟩ : db.rules.next = p ∧ rule = present := by
    simpa using Option.some.inj hsome
  rw [hrule'] at hstored
  cases hstored
  -- the table is of the kind it was
  obtain ⟨table', htable', -⟩ := hupd.made
  have hsamekind : table'.kind = table.kind := by
    have hthis := hkind rule.table_id
    unfold AclDb.kindOf at hthis
    rw [htable', hnamed, htable] at hthis
    exact Option.some.inj hthis
  have hend : SameStored { given with policer_id := modify.policer_id } added ↔
      SameStored { given with policer_id := modify.policer_id } mid' := by
    constructor
    · rintro ⟨h₁, h₂, h₃, h₄, h₅⟩
      exact ⟨h₁.trans hsame'.filter_list.symm, h₂.trans hsame'.action_list.symm,
        h₃.trans hsame'.counter_id.symm, h₄.trans hsame'.policer_id.symm,
        fun direction => (h₅ direction).trans (hsame'.samplepacket_id _).symm⟩
    · rintro ⟨h₁, h₂, h₃, h₄, h₅⟩
      exact ⟨h₁.trans hsame'.filter_list, h₂.trans hsame'.action_list,
        h₃.trans hsame'.counter_id, h₄.trans hsame'.policer_id,
        fun direction => (h₅ direction).trans (hsame'.samplepacket_id _)⟩
  rw [hend]
  rcases hid with ⟨field, hid⟩ | ⟨action, hid⟩
  · exact field_sameStored_iff hid hmid hlast hsame hsamekind htable' hupd
  refine action_sameStored_iff hid hmid hfit ?_ hlast hsame hsamekind htable' hupd
  -- the action is not among those of the attributes before it
  obtain ⟨hactions, -⟩ := aclRulePopulateAttrs_ok hmid
  rw [hactions]
  intro hin
  obtain ⟨b, hb, hbid⟩ := List.mem_filterMap.mp (by simpa [AclRule.zero, actionIds] using hin)
  have hbaction : b.id = .action action := by
    unfold AclAttr.actionId at hbid
    split at hbid
    next heq => rw [heq, Option.some.inj hbid]
    · cases hbid
  rw [List.map_append, List.nodup_append] at hnodup
  exact hnodup.2.2 b.id (List.mem_map_of_mem hb) attr.id (by simp) (hbaction.trans hid.symm)

theorem aclRuleSet_sameStored_iff_inPorts :
    let env := AclEnv.good (fun _ => .invalid) []
    let tid := uoidCreate .aclTable 1
    let db := AclDb.oneTable tid fun _ => false
    let attrs := prioritisedRule tid 10
    let attr := AclAttr.mk (.field .inPorts) ⟨true, .objlist [uoidCreate .port 1], .zero⟩
    ∃ set added, (aclRuleSet env (uoidCreate .aclEntry 0) attr
        (aclRuleCreate env attrs db).2).2.rules.get db.rules.next = some set ∧
      (aclRuleCreate env (attrs ++ [attr]) db).2.rules.get db.rules.next = some added ∧
      SameStored set added := by
  intro env tid db attrs attr
  have hx : (aclRuleCreate env attrs db).1 = .success := by decide
  have hz : (aclRuleCreate env (attrs ++ [attr]) db).1 = .success := by decide
  have hy : (aclRuleSet env (uoidCreate .aclEntry 0) attr (aclRuleCreate env attrs db).2).1 =
      .success := by decide
  obtain ⟨rule, hrule⟩ : ∃ rule, (aclRuleCreate env attrs db).2.rules.get db.rules.next =
    some rule := Option.isSome_iff_exists.mp (by decide)
  obtain ⟨set, hset⟩ : ∃ set, (aclRuleSet env (uoidCreate .aclEntry 0) attr
    (aclRuleCreate env attrs db).2).2.rules.get db.rules.next = some set :=
    Option.isSome_iff_exists.mp (by decide)
  obtain ⟨added, hadded⟩ : ∃ added, (aclRuleCreate env (attrs ++ [attr]) db).2.rules.get
    db.rules.next = some added := Option.isSome_iff_exists.mp (by decide)
  have hid : rule.acl_id = uoidCreate .aclEntry 0 := by
    have hmap : ((aclRuleCreate env attrs db).2.rules.get db.rules.next).map (·.acl_id) =
        some (uoidCreate .aclEntry 0) := by decide
    rw [hrule] at hmap
    exact Option.some.inj hmap
  have htable : db.table_tree (namedTable .null attrs) = some ⟨.ingress, 0, [], 0, false, []⟩ := by
    decide
  rw [← hid] at hy hset
  have hiff := aclRuleSet_sameStored_iff (.inl ⟨.inPorts, rfl⟩) htable hx hrule hy hset hz hadded
  rw [hid] at hset
  refine ⟨set, added, hset, hadded, hiff.mpr ?_⟩
  refine ⟨rfl, ?_, ?_, rfl, fun _ _ => rfl, fun hno => absurd hno (by simp)⟩
  · rintro ⟨b, hb, g, hbid, hg⟩
    simp only [attrs, prioritisedRule, List.mem_cons, List.not_mem_nil, or_false] at hb
    rcases hb with rfl | rfl | rfl
    · cases hbid
    · cases hbid
    · obtain rfl := AclEntryAttr.field.inj hbid
      cases hg
  · rintro ⟨b, hb, hbid, -⟩
    simp only [attrs, prioritisedRule, List.mem_cons, List.not_mem_nil, or_false] at hb
    rcases hb with rfl | rfl | rfl <;> cases hbid

/-- A user defined field that is set: the copy forgets its group. -/
theorem not_sameStored_udf :
    let env := AclEnv.good (fun _ => .invalid) []
    let tid := uoidCreate .aclTable 1
    let group := uoidCreate .udfGroup 1
    let db := AclDb.initial (fun t => if t = tid
      then some ⟨.ingress, 0, [], 0, false, [(0, group)]⟩ else none) (fun _ => none)
      (fun _ => false) .empty
    let attrs := prioritisedRule tid 10
    let attr := AclAttr.mk (.field (.udf 0)) ⟨true, .u8list [1], .u8list [255]⟩
    let x := aclRuleCreate env attrs db
    let y := aclRuleSet env (uoidCreate .aclEntry 0) attr x.2
    let z := aclRuleCreate env (attrs ++ [attr]) db
    x.1 = .success ∧ y.1 = .success ∧ z.1 = .success ∧
      ∃ set added, y.2.rules.get db.rules.next = some set ∧
        z.2.rules.get db.rules.next = some added ∧ ¬SameStored set added := by
  intro env tid group db attrs attr x y z
  refine ⟨by decide, by decide, by decide, ?_⟩
  obtain ⟨set, hset⟩ : ∃ set, y.2.rules.get db.rules.next = some set :=
    Option.isSome_iff_exists.mp (by decide)
  obtain ⟨added, hadded⟩ : ∃ added, z.2.rules.get db.rules.next = some added :=
    Option.isSome_iff_exists.mp (by decide)
  refine ⟨set, added, hset, hadded, fun hsame => ?_⟩
  have hlost : (y.2.rules.get db.rules.next).map (fun r => r.filter_list.map (·.udf_field.udf_group_id))
      = some [.null, .null] := by decide
  have hkept : (z.2.rules.get db.rules.next).map (fun r => r.filter_list.map (·.udf_field.udf_group_id))
      = some [.null, group] := by decide
  rw [hset] at hlost
  rw [hadded] at hkept
  have hlost' : set.filter_list.map (·.udf_field.udf_group_id) = [.null, .null] :=
    Option.some.inj hlost
  have hkept' : added.filter_list.map (·.udf_field.udf_group_id) = [.null, group] :=
    Option.some.inj hkept
  rw [hsame.filter_list, hkept'] at hlost'
  exact absurd hlost' (by decide)

end OpxSai
