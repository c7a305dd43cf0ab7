import OpxSai.Acl.RuleOrder
import OpxSai.Acl.RuleSet

/-!
# Rules and policers

A policer keeps the rules that use it on a list, a rule keeps the id of its policer, and the action
that gave it to the rule keeps it once more.

* `PolicerOpOk` — the condition on a call. The policer update comes last in a set of any attribute,
  and takes an attribute that is not about policers for one that takes the policer away;
* `policersConsistent_of_run` — the main result.
-/

namespace OpxSai

open AclDb

variable {env : AclEnv} {db : AclDb} {rule : AclRule} {p : Ptr} {present : AclRule} {l : List Ptr}
variable {attrs : List AclAttr} {acl_id : Oid} {attr : AclAttr}
variable {c : AclRuleOpCall}

/-! ## The invariant -/

structure PolicersFit (db : AclDb) : Prop where
  named : ∀ q l, db.policer_tree q = some l → q ≠ .null
  listed : ∀ q l, db.policer_tree q = some l → ∀ p, p ∈ l ↔
    ∃ rule, db.rules.get p = some rule ∧ rule.policer_id = q
  nodup : ∀ q l, db.policer_tree q = some l → l.Nodup
  attached : ∀ p rule, db.rules.get p = some rule → rule.policer_id ≠ .null →
    (db.policer_tree rule.policer_id).isSome
  fits : ∀ p rule, db.rules.get p = some rule →
    rule.policer_id = actionOid .setPolicer rule.action_list

/-- What a set may do to the policer of a rule: it stays, or the rule moves from the list of the old
one to the end of the list of the new one. -/
structure PolicerReplaced (env : AclEnv) (db db' : AclDb) (p : Ptr) (present rule : AclRule) :
    Prop where
  rules : ∀ q, db'.rules.get q = if q = p then some rule else db.rules.get q
  fits : rule.policer_id = actionOid .setPolicer rule.action_list
  exists_policer : rule.policer_id ≠ .null → (db.policer_tree rule.policer_id).isSome
  policer_tree : ∀ q, db'.policer_tree q =
    if rule.policer_id = present.policer_id then db.policer_tree q
    else if q = rule.policer_id then (db.policer_tree q).map fun l => l ++ [p]
    else if q = present.policer_id then (db.policer_tree q).map (aclDllRemove env p)
    else db.policer_tree q

namespace PolicersFit

variable {db' : AclDb}

theorem congr (h : PolicersFit db) (hrules : ∀ p, db'.rules.get p = db.rules.get p)
    (hpolicers : ∀ q, db'.policer_tree q = db.policer_tree q) : PolicersFit db' := by
  refine ⟨fun q l hl => ?_, fun q l hl p => ?_, fun q l hl => ?_, fun p rule hp hne => ?_,
    fun p rule hp => ?_⟩
  · rw [hpolicers] at hl
    exact h.named q l hl
  · rw [hpolicers] at hl
    rw [hrules]
    exact h.listed q l hl p
  · rw [hpolicers] at hl
    exact h.nodup q l hl
  · rw [hrules] at hp
    rw [hpolicers]
    exact h.attached p _ hp hne
  · rw [hrules] at hp
    exact h.fits p _ hp

theorem same (h : PolicersFit db) (hs : SameAcl db db') : PolicersFit db' :=
  h.congr hs.rules hs.policer_tree

theorem next_not_mem (h : PolicersFit db) {q} (hl : db.policer_tree q = some l) :
    db.rules.next ∉ l := by
  intro hin
  obtain ⟨rule, hget, -⟩ := (h.listed q l hl _).mp hin
  exact absurd hget (by simp)

theorem created (h : PolicersFit db) (hc : RuleCreated env attrs db db' rule) : PolicersFit db' := by
  have hcase : ∀ p r, db'.rules.get p = some r →
      (p = db.rules.next ∧ r = rule) ∨ (p ≠ db.rules.next ∧ db.rules.get p = some r) := by
    intro p r hp
    rw [hc.rules] at hp
    by_cases hq : p = db.rules.next
    · rw [if_pos hq] at hp
      exact .inl ⟨hq, (Option.some.inj hp).symm⟩
    · rw [if_neg hq] at hp
      exact .inr ⟨hq, hp⟩
  -- a list is the old one, with the new rule at its end if it is the list of its policer
  have hlist : ∀ q l', db'.policer_tree q = some l' → ∃ l, db.policer_tree q = some l ∧
      l' = if q = rule.policer_id then l ++ [db.rules.next] else l := by
    intro q l' hl'
    rw [hc.policer_tree] at hl'
    by_cases hq : q = rule.policer_id
    · by_cases hnull : q = .null
      · rw [if_neg fun hand => hand.2 hnull] at hl'
        exact absurd hnull (h.named q l' hl')
      rw [if_pos ⟨hq, hnull⟩] at hl'
      obtain ⟨l, hl, rfl⟩ := Option.map_eq_some_iff.mp hl'
      exact ⟨l, hl, by rw [if_pos hq]⟩
    · rw [if_neg fun hand => hq hand.1] at hl'
      exact ⟨l', hl', by rw [if_neg hq]⟩
  have hsome : ∀ q, (db'.policer_tree q).isSome = (db.policer_tree q).isSome := by
    intro q
    rw [hc.policer_tree]
    split
    · rw [Option.isSome_map]
    · rfl
  refine ⟨fun q l' hl' => ?_, fun q l' hl' p => ?_, fun q l' hl' => ?_, fun p r hp hne => ?_,
    fun p r hp => ?_⟩
  · obtain ⟨l, hl, -⟩ := hlist q l' hl'
    exact h.named q l hl
  · obtain ⟨l, hl, rfl⟩ := hlist q l' hl'
    have hold := h.listed q l hl p
    have hnew := h.next_not_mem hl
    rw [hc.rules]
    by_cases hp : p = db.rules.next
    · subst hp
      by_cases hq : q = rule.policer_id
      · simp [hq]
      · simp [hq, hnew, Ne.symm hq]
    by_cases hq : q = rule.policer_id
    · subst hq
      simp [hp, hold]
    · simp [hq, hp, hold]
  · obtain ⟨l, hl, rfl⟩ := hlist q l' hl'
    have hnew := h.next_not_mem hl
    have hold := h.nodup q l hl
    split
    · rw [List.nodup_append]
      refine ⟨hold, by simp, fun a ha b hb => ?_⟩
      rw [List.mem_singleton] at hb
      subst hb
      rintro rfl
      exact hnew ha
    · exact hold
  · rw [hsome]
    rcases hcase p r hp with ⟨-, rfl⟩ | ⟨-, hp⟩
    · exact hc.policer hne
    · exact h.attached p r hp hne
  · rcases hcase p r hp with ⟨-, rfl⟩ | ⟨-, hp⟩
    · exact hc.attrs.fits .setPolicer rfl
    · exact h.fits p r hp

theorem remove_eq (h : PolicersFit db) (hp : db.rules.get p = some rule)
    (hl : db.policer_tree rule.policer_id = some l) : aclDllRemove env p l = l.erase p := by
  have hin : p ∈ l := (h.listed _ l hl p).mpr ⟨rule, hp, rfl⟩
  unfold aclDllRemove
  rw [if_pos hin]

theorem deleted (h : PolicersFit db) (hd : RuleDeleted env acl_id db db' p rule) :
    PolicersFit db' := by
  have hp : db.rules.get p = some rule := (aclRuleFind_some hd.find).2
  have hcase : ∀ q r, db'.rules.get q = some r → q ≠ p ∧ db.rules.get q = some r := by
    intro q r hq
    rw [hd.rules] at hq
    split at hq
    · cases hq
    next hne => exact ⟨hne, hq⟩
  have hlist : ∀ q l', db'.policer_tree q = some l' → ∃ l, db.policer_tree q = some l ∧
      l' = if q = rule.policer_id then l.erase p else l := by
    intro q l' hl'
    rw [hd.policer_tree] at hl'
    by_cases hq : q = rule.policer_id
    · by_cases hnull : q = .null
      · rw [if_neg fun hand => hand.2 hnull] at hl'
        exact absurd hnull (h.named q l' hl')
      rw [if_pos ⟨hq, hnull⟩] at hl'
      obtain ⟨l, hl, rfl⟩ := Option.map_eq_some_iff.mp hl'
      refine ⟨l, hl, ?_⟩
      rw [if_pos hq]
      subst hq
      exact h.remove_eq hp hl
    · rw [if_neg fun hand => hq hand.1] at hl'
      exact ⟨l', hl', by rw [if_neg hq]⟩
  have hsome : ∀ q, (db'.policer_tree q).isSome = (db.policer_tree q).isSome := by
    intro q
    rw [hd.policer_tree]
    split
    · rw [Option.isSome_map]
    · rfl
  refine ⟨fun q l' hl' => ?_, fun q l' hl' r => ?_, fun q l' hl' => ?_, fun q r hq hne => ?_,
    fun q r hq => ?_⟩
  · obtain ⟨l, hl, -⟩ := hlist q l' hl'
    exact h.named q l hl
  · obtain ⟨l, hl, rfl⟩ := hlist q l' hl'
    have hold := h.listed q l hl r
    rw [hd.rules]
    by_cases hq : q = rule.policer_id
    · rw [if_pos hq, (h.nodup q l hl).mem_erase_iff, hold]
      by_cases hr : r = p
      · simp [hr]
      · simp [hr]
    rw [if_neg hq, hold]
    by_cases hr : r = p
    · subst hr
      rw [hp, if_pos rfl]
      simp [Ne.symm hq]
    · simp [hr]
  · obtain ⟨l, hl, rfl⟩ := hlist q l' hl'
    split
    · exact (h.nodup q l hl).erase p
    · exact h.nodup q l hl
  · rw [hsome]
    exact h.attached q r (hcase q r hq).2 hne
  · exact h.fits q r (hcase q r hq).2

theorem moved (h : PolicersFit db) (hp : db.rules.get p = some rule) :
    PolicersFit (db.modPolicer rule.policer_id fun l => aclDllRemove env p l ++ [p]) := by
  have hlist : ∀ q l',
      (db.modPolicer rule.policer_id fun l => aclDllRemove env p l ++ [p]).policer_tree q = some l' →
      ∃ l, db.policer_tree q = some l ∧ l'.Perm l := by
    intro q l' hl'
    have heq : (if q = rule.policer_id then
        (db.policer_tree q).map fun l => aclDllRemove env p l ++ [p] else db.policer_tree q) =
        some l' := hl'
    split at heq
    next hq =>
      obtain ⟨l, hl, rfl⟩ := Option.map_eq_some_iff.mp heq
      refine ⟨l, hl, ?_⟩
      subst hq
      have hin : p ∈ l := (h.listed _ l hl p).mpr ⟨rule, hp, rfl⟩
      rw [h.remove_eq hp hl]
      exact (List.perm_append_singleton p _).trans (List.perm_cons_erase hin).symm
    · exact ⟨l', heq, .refl l'⟩
  refine ⟨fun q l' hl' => ?_, fun q l' hl' r => ?_, fun q l' hl' => ?_, fun q r hq hne => ?_,
    fun q r hq => h.fits q r hq⟩
  · obtain ⟨l, hl, -⟩ := hlist q l' hl'
    exact h.named q l hl
  · obtain ⟨l, hl, hperm⟩ := hlist q l' hl'
    rw [hperm.mem_iff]
    exact h.listed q l hl r
  · obtain ⟨l, hl, hperm⟩ := hlist q l' hl'
    exact hperm.nodup_iff.mpr (h.nodup q l hl)
  · have hold := h.attached q r hq hne
    show (if r.policer_id = rule.policer_id then
      (db.policer_tree r.policer_id).map _ else db.policer_tree r.policer_id).isSome
    split
    · rw [Option.isSome_map]
      exact hold
    · exact hold

theorem replaced (h : PolicersFit db)
    (hp : db.rules.get p = some present) (hr : PolicerReplaced env db db' p present rule) :
    PolicersFit db' := by
  -- the members of a list, old and new
  have hlist : ∀ q l', db'.policer_tree q = some l' → ∃ l, db.policer_tree q = some l ∧ l'.Nodup ∧
      ∀ r, r ∈ l' ↔ if r = p then q = rule.policer_id else r ∈ l := by
    intro q l' hl'
    rw [hr.policer_tree] at hl'
    by_cases hsame : rule.policer_id = present.policer_id
    · rw [if_pos hsame] at hl'
      refine ⟨l', hl', h.nodup q l' hl', fun r => ?_⟩
      split
      next heq =>
        subst heq
        rw [h.listed q l' hl', hp, hsame]
        simp [eq_comm]
      · rfl
    rw [if_neg hsame] at hl'
    by_cases hnew : q = rule.policer_id
    · rw [if_pos hnew] at hl'
      obtain ⟨l, hl, rfl⟩ := Option.map_eq_some_iff.mp hl'
      have hout : p ∉ l := by
        rw [h.listed q l hl, hp]
        rintro ⟨r, hrr, hq⟩
        cases hrr
        exact hsame (hnew.symm.trans hq.symm)
      refine ⟨l, hl, ?_, fun r => ?_⟩
      · rw [List.nodup_append]
        refine ⟨h.nodup q l hl, by simp, fun a ha b hb => ?_⟩
        rw [List.mem_singleton] at hb
        subst hb
        rintro rfl
        exact hout ha
      · by_cases hrp : r = p
        · simp [hrp, hnew]
        · simp [hrp]
    rw [if_neg hnew] at hl'
    by_cases hold : q = present.policer_id
    · rw [if_pos hold] at hl'
      obtain ⟨l, hl, rfl⟩ := Option.map_eq_some_iff.mp hl'
      rw [h.remove_eq hp (hold ▸ hl)]
      refine ⟨l, hl, (h.nodup q l hl).erase p, fun r => ?_⟩
      rw [(h.nodup q l hl).mem_erase_iff]
      by_cases hrp : r = p
      · simp [hrp, hnew]
      · simp [hrp]
    · rw [if_neg hold] at hl'
      refine ⟨l', hl', h.nodup q l' hl', fun r => ?_⟩
      split
      next heq =>
        subst heq
        rw [h.listed q l' hl', hp]
        simp [hnew, Ne.symm hold]
      · rfl
  have hsome : ∀ q, (db'.policer_tree q).isSome = (db.policer_tree q).isSome := by
    intro q
    rw [hr.policer_tree]
    split
    · rfl
    split
    · rw [Option.isSome_map]
    split
    · rw [Option.isSome_map]
    · rfl
  refine ⟨fun q l' hl' => ?_, fun q l' hl' r => ?_, fun q l' hl' => ?_, fun q r hq hne => ?_,
    fun q r hq => ?_⟩
  · obtain ⟨l, hl, -⟩ := hlist q l' hl'
    exact h.named q l hl
  · obtain ⟨l, hl, -, hmem⟩ := hlist q l' hl'
    rw [hmem, hr.rules]
    by_cases hrp : r = p
    · simp [hrp, eq_comm]
    · rw [if_neg hrp, if_neg hrp, h.listed q l hl]
  · obtain ⟨l, -, hnodup, -⟩ := hlist q l' hl'
    exact hnodup
  · rw [hsome]
    rw [hr.rules] at hq
    split at hq
    · cases hq
      exact hr.exists_policer hne
    · exact h.attached q r hq hne
  · rw [hr.rules] at hq
    split at hq
    · cases hq
      exact hr.fits
    · exact h.fits q r hq

end PolicersFit

/-- The condition on a call. A create of a rule with a policer finds memory in the rule tree. A set
of any attribute but the policer meets a rule that has no policer; a set that enables a policer
names one that exists, and finds memory if the action is new to the rule. -/
def PolicerOpOk (c : AclRuleOpCall) (db : AclDb) : Prop :=
  match c.op with
  | .create attr_list => ∀ table rule,
      db.table_tree (namedTable .null attr_list) = some table →
      aclRulePopulate c.env table .zero attr_list = .ok rule →
      rule.policer_id ≠ .null → c.env.avail .ruleTree = true
  | .delete _ => True
  | .set acl_id attr => ∀ p present table modify,
      aclRuleFind acl_id db = some (p, present) →
      db.table_tree present.table_id = some table →
      c.env.avail .scanRule = true →
      aclRuleModify c.env table present attr = .ok modify →
      aclValidateSetRule modify present db = .success →
      (aclRuleValidateUpdateSamplepacket c.env modify present true false db).1 = .success →
      SetReachesNpu c.env modify present db.npu_log →
      if attr.id = .action .setPolicer then
        attr.value.enable = true → (db.policer_tree attr.value.data.getOid).isSome ∧
          (.setPolicer ∉ actionIds present.action_list → c.env.avail .newActions = true)
      else present.policer_id = .null

/-! ## Set -/

theorem validateUpdateSamplepacket_of_policer {table}
    {modify orig} (h : aclRuleModify env table present attr = .ok modify)
    (hid : attr.id = .action .setPolicer) (validate update : Bool) (db : AclDb) :
    aclRuleValidateUpdateSamplepacket env modify orig validate update db = (.success, db) := by
  have hlists := aclRuleModify_lists h
  rw [hid] at hlists
  obtain ⟨act, hact, hf, ha⟩ := hlists
  obtain ⟨haction, -⟩ := aclRuleActionOf_ok hact
  unfold aclRuleValidateUpdateSamplepacket
  rw [hf, ha]
  simp [lastSampleAction, haction, aclGetSampleDirection]

theorem PolicerReplaced.of_written {d} {given} {policer_id}
    (hp : db.rules.get p = some present) (hout : OutsideOnly (db.modRule p fun _ => given) d)
    (hsame : given.policer_id = present.policer_id) (hne : policer_id ≠ given.policer_id)
    (hnamed : ∀ q l, db.policer_tree q = some l → q ≠ .null)
    (hexists : policer_id ≠ .null → (db.policer_tree policer_id).isSome)
    (hfits : policer_id = actionOid .setPolicer given.action_list) :
    PolicerReplaced env db (policerAttached p policer_id (policerWritten p policer_id
      (policerDetached env p given.policer_id d))) p present { given with policer_id:= policer_id } := by
  refine ⟨fun q => ?_, hfits, hexists, fun q => ?_⟩
  · rw [policerAttached_rules]
    show ((policerDetached env p given.policer_id d).rules.modify p _).get q = _
    rw [policerDetached_rules, Heap.get_modify, hout.rules]
    show (if q = p then ((db.rules.modify p _).get q).map _ else (db.rules.modify p _).get q) = _
    rw [Heap.get_modify]
    by_cases hq : q = p
    · rw [if_pos hq, if_pos hq, if_pos hq, hq, hp]
      rfl
    · rw [if_neg hq, if_neg hq, if_neg hq]
  · have hold : d.policer_tree q = db.policer_tree q := by
      rw [hout.policer_tree]
      rfl
    have hnone : q = .null → db.policer_tree q = none := by
      intro hnull
      cases hget : db.policer_tree q with
      | none => rfl
      | some l => exact absurd hnull (hnamed q l hget)
    rw [if_neg (hsame ▸ hne), policerAttached_apply]
    show (if q = policer_id ∧ q ≠ .null then
      ((policerDetached env p given.policer_id d).policer_tree q).map _
      else (policerDetached env p given.policer_id d).policer_tree q) = _
    rw [policerDetached_apply, hold, hsame]
    by_cases hnull : q = .null
    · rw [if_neg fun hand => hand.2 hnull, if_neg fun hand => hand.2 hnull, hnone hnull]
      simp
    by_cases hnew : q = policer_id
    · have hother : q ≠ present.policer_id := fun heq => hne (hnew.symm.trans (heq.trans hsame.symm))
      rw [if_pos ⟨hnew, hnull⟩, if_neg fun hand => hother hand.1, if_pos hnew]
    rw [if_neg fun hand => hnew hand.1, if_neg hnew]
    by_cases heq : q = present.policer_id
    · rw [if_pos ⟨heq, hnull⟩, if_pos heq]
    · rw [if_neg fun hand => heq hand.1, if_neg heq]

/-- **Set**, under the condition: rules and policers are the same, or one rule is written, and a
change of its policer is the success of a set of the policer. -/
theorem PolicersFit.set_cases
    {x} (h : PolicersFit db) (hok : PolicerOpOk ⟨env, .set acl_id attr⟩ db)
    (hx : aclRuleSet env acl_id attr db = x) :
    SameAcl db x.2 ∨ ∃ p present rule, aclRuleFind acl_id db = some (p, present) ∧
      PolicerReplaced env db x.2 p present rule ∧ (rule.policer_id ≠ present.policer_id →
        attr.id = .action .setPolicer ∧ x.1 = .success) := by
  rcases aclRuleSet_cases hx with ⟨-, hsame⟩ | ⟨p, present, modify, given, hupd, hcase⟩
  · exact .inl (.of_outside hsame)
  obtain ⟨hrules_tree, hp⟩ := aclRuleFind_some hupd.find
  obtain ⟨table, htable, hmodify⟩ := hupd.made
  have hcond := hok p present table modify hupd.find htable hupd.scan hmodify hupd.valid
    hupd.sampled hupd.reaches
  have hpolicer : modify.policer_id = if attr.id = .action .setPolicer ∧ attr.value.enable = true
      then attr.value.data.getOid else .null := by
    have hids := aclRuleModify_ids hmodify .setPolicer
    simp only [aclIdAction, true_and] at hids
    exact hids
  have hkept : given.policer_id = present.policer_id := hupd.ids.2.2.2.1
  -- a rule that is written and keeps its policer
  have hstays : ∀ d, OutsideOnly (db.modRule p fun _ => given) d →
      given.policer_id = actionOid .setPolicer given.action_list →
      PolicerReplaced env db d p present given := by
    intro d hd hfits
    refine ⟨fun q => ?_, hfits, fun hne => ?_, fun q => ?_⟩
    · rw [hd.rules]
      show (db.rules.modify p _).get q = _
      rw [Heap.get_modify]
      by_cases hq : q = p
      · rw [if_pos hq, if_pos hq, hq, hp]
        rfl
      · rw [if_neg hq, if_neg hq]
    · rw [hkept] at hne ⊢
      exact h.attached p _ hp hne
    · rw [if_pos hkept, hd.policer_tree]
      rfl
  refine .inr ?_
  by_cases hid : attr.id = .action .setPolicer
  · rw [if_pos hid] at hcond
    -- the action names the policer that the update writes
    have hfits : modify.policer_id = actionOid .setPolicer given.action_list := by
      rw [hupd.actionOid_self hid rfl (by simp) fun hen => (hcond hen).2, hpolicer]
      simp only [hid, true_and]
    rcases hcase with ⟨-, -, d, hfail⟩ | ⟨d, hd, hpol⟩
    · rw [validateUpdateSamplepacket_of_policer hmodify hid] at hfail
      exact absurd rfl hfail
    rcases aclRulePolicerUpdate_cases hpol with ⟨heq, rfl⟩ | ⟨-, hnull, hnone, -⟩ | ⟨hne, -, hdone⟩
    · exact ⟨p, present, given, hupd.find, hstays d hd (heq.symm.trans hfits),
        fun hne => absurd hkept hne⟩
    · have hsome := h.attached p _ hp (hkept ▸ hnull)
      rw [← hkept] at hsome
      rw [hd.policer_tree] at hnone
      have hnone' : db.policer_tree given.policer_id = none := hnone
      rw [hnone'] at hsome
      cases hsome
    -- the new policer exists, as the condition has it
    have hexists : modify.policer_id ≠ .null → (db.policer_tree modify.policer_id).isSome := by
      intro hnull
      rw [hpolicer] at hnull ⊢
      split at hnull
      next hboth =>
        rw [if_pos hboth]
        exact (hcond hboth.2).1
      · exact absurd rfl hnull
    rcases hdone with ⟨hnull, hnone, -⟩ | ⟨-, rfl⟩
    · have hsome := hexists hnull
      rw [hd.policer_tree] at hnone
      have hnone' : db.policer_tree modify.policer_id = none := hnone
      rw [hnone'] at hsome
      cases hsome
    · exact ⟨p, present, _, hupd.find, .of_written hp hd hkept hne h.named hexists hfits,
        fun _ => ⟨hid, rfl⟩⟩
  · rw [if_neg hid] at hcond
    have hnull : given.policer_id = .null := hkept.trans hcond
    have hfits : given.policer_id = actionOid .setPolicer given.action_list := by
      rw [hupd.actionOid_other hid, hkept]
      exact h.fits p _ hp
    have hmod : modify.policer_id = .null := by
      rw [hpolicer, if_neg fun hand => hid hand.1]
    refine ⟨p, present, given, hupd.find, hstays x.2 ?_ hfits, fun hne => absurd hkept hne⟩
    rcases hcase with ⟨-, hout, -⟩ | ⟨d, hd, hpol⟩
    · exact hout
    rcases aclRulePolicerUpdate_cases hpol with ⟨-, rfl⟩ | ⟨hne, -⟩ | ⟨hne, -⟩
    · exact hd
    · exact absurd (hmod.trans hnull.symm) hne
    · exact absurd (hmod.trans hnull.symm) hne

/-! ## Runs -/

theorem RuleStuck.not_ok {db'}
    (hs : RuleStuck env attrs db db' rule) (hok : PolicerOpOk ⟨env, .create attrs⟩ db) : False := by
  obtain ⟨counts, table, rule₀, hcheck, htable, hpop, hrule⟩ := hs.attrs.made
  have hnamed : counts.acl_table_id = namedTable .null attrs := (aclCheckRuleAttributes_ok hcheck).2
  rw [hnamed] at htable
  have hpolicer : rule₀.policer_id = rule.policer_id := by
    rw [hrule]
  have havail := hok table rule₀ htable hpop (hpolicer ▸ hs.policer)
  rw [hs.tree] at havail
  cases havail

theorem PolicersFit.step (h : PolicersFit db) (hop : PolicerOpOk c db) :
    PolicersFit (aclRuleStep c db) := by
  cases aclRuleStep_does c db with
  | same hs => exact h.same hs
  | stuck hstuck => exact (hstuck.not_ok hop).elim
  | created hc => exact h.created hc
  | @moved env _ _ _ hm => exact (h.moved (aclRuleFind_some hm.find).2).same hm.same
  | deleted hd => exact h.deleted hd
  | rewritten =>
    rcases h.set_cases hop rfl with hs | ⟨p, present, rule, hfind, hr, -⟩
    · exact h.same hs
    · exact h.replaced (aclRuleFind_some hfind).2 hr

/-- Policers, rules and actions agree: a node is on the list of a policer, once, if and only if it
is a rule of the tree with that policer, and the policer of a rule is that of its enabled action. -/
structure PolicersConsistent (db : AclDb) : Prop where
  listed : ∀ q l, db.policer_tree q = some l → ∀ p, l.count p = 1 ↔
    ∃ r rule, aclRuleFind r db = some (p, rule) ∧ rule.policer_id = q
  once : ∀ q l, db.policer_tree q = some l → ∀ p, l.count p ≤ 1
  attached : ∀ r p rule, aclRuleFind r db = some (p, rule) → rule.policer_id ≠ .null →
    (db.policer_tree rule.policer_id).isSome
  action : ∀ r p rule, aclRuleFind r db = some (p, rule) →
    rule.policer_id = actionOid .setPolicer rule.action_list

/-- A call that changes the policer of a rule is a successful set of its policer action. -/
def PolicerChangedBySet (c : AclRuleOpCall) (db : AclDb) : Prop :=
  ∀ r p p' rule rule', aclRuleFind r db = some (p, rule) →
    aclRuleFind r (aclRuleStep c db) = some (p', rule') → rule'.policer_id ≠ rule.policer_id →
    ∃ attr, c.op = .set r attr ∧ attr.id = .action .setPolicer ∧ (aclRuleExec c db).1 = .success

theorem PolicersConsistent.of_fit (hok : RulesOk db) (h : PolicersFit db) :
    PolicersConsistent db := by
  refine ⟨fun q l hl p => ?_, fun q l hl p => ?_, fun r p rule hfind hne => ?_,
    fun r p rule hfind => ?_⟩
  · rw [(h.nodup q l hl).count]
    constructor
    · intro hcount
      have hin : p ∈ l := by
        by_contra hout
        rw [if_neg hout] at hcount
        omega
      obtain ⟨rule, hp, hq⟩ := (h.listed q l hl p).mp hin
      exact ⟨rule.acl_id, rule, hok.find hp, hq⟩
    · rintro ⟨r, rule, hfind, hq⟩
      exact if_pos ((h.listed q l hl p).mpr ⟨rule, (aclRuleFind_some hfind).2, hq⟩)
  · exact List.nodup_iff_count_le_one.mp (h.nodup q l hl) p
  · exact h.attached p _ (aclRuleFind_some hfind).2 hne
  · exact h.fits p _ (aclRuleFind_some hfind).2

theorem aclRuleStep_find {r} {p'} {rule'} (h : aclRuleFind r db = some (p, rule))
    (h' : aclRuleFind r (aclRuleStep c db) = some (p', rule')) : p' = p := by
  obtain ⟨htree, hp⟩ := aclRuleFind_some h
  obtain ⟨htree', -⟩ := aclRuleFind_some h'
  have hsame : (aclRuleStep c db).rule_tree r = db.rule_tree r → p' = p := by
    intro heq
    rw [heq, htree] at htree'
    exact (Option.some.inj htree').symm
  cases aclRuleStep_does c db with
  | same hs => exact hsame (hs.rule_tree r)
  | stuck hstuck => exact hsame ((hstuck.same.rule_tree r).trans (by simp))
  | created hc =>
    refine hsame ((hc.rule_tree r).trans (if_neg ?_))
    rintro rfl
    rw [hc.unused] at h
    cases h
  | moved hm => exact hsame (hm.same.rule_tree r)
  | deleted hd =>
    refine hsame ((hd.rule_tree r).trans (if_neg ?_))
    rintro rfl
    rw [hd.rule_tree, if_pos rfl] at htree'
    cases htree'
  | rewritten _ hw => exact hsame (hw.rule_tree r)

theorem PolicersFit.changed_by_set (hrules : RulesOk db) (h : PolicersFit db) (hop : PolicerOpOk c db) :
    PolicerChangedBySet c db := by
  intro r p p' rule rule' hfind hfind' hne
  obtain rfl := aclRuleStep_find hfind hfind'
  obtain ⟨htree, hp⟩ := aclRuleFind_some hfind
  obtain ⟨-, hp'⟩ := aclRuleFind_some hfind'
  have hkept : (aclRuleStep c db).rules.get p' ≠ db.rules.get p' := by
    intro heq
    rw [heq, hp] at hp'
    cases hp'
    exact hne rfl
  cases aclRuleStep_does c db with
  | same hs => exact absurd (hs.rules p') hkept
  | stuck hstuck => exact (hstuck.not_ok hop).elim
  | created hc =>
    refine absurd ((hc.rules p').trans (if_neg ?_)) hkept
    rintro rfl
    exact absurd hp (by simp)
  | moved hm => exact absurd (hm.same.rules p') hkept
  | deleted hd =>
    refine absurd ((hd.rules p').trans (if_neg ?_)) hkept
    rintro rfl
    rw [hd.rules, if_pos rfl] at hp'
    cases hp'
  | @rewritten env acl_id _ attr =>
    rcases h.set_cases hop rfl with hs | ⟨q, present, rule₁, hfind₁, hr, hchange⟩
    · exact absurd (hs.rules p') hkept
    by_cases hq : p' = q
    · subst hq
      have hpres := (aclRuleFind_some hfind₁).2
      rw [hp] at hpres
      cases hpres
      rw [show (aclRuleStep ⟨env, .set acl_id attr⟩ db).rules.get p' = _ from hr.rules p',
        if_pos rfl] at hp'
      cases hp'
      obtain ⟨hid, hok⟩ := hchange hne
      have hsame : acl_id = r := (hrules.id_of_find hfind₁).symm.trans (hrules.id_of_find hfind)
      exact ⟨attr, by rw [hsame], hid, hok⟩
    · exact absurd ((hr.rules p').trans (if_neg hq)) hkept

/-- There are no rules on any policer, and the null id is none of a policer. -/
def NoRulesPoliced (db : AclDb) : Prop :=
  ∀ q l, db.policer_tree q = some l → l = [] ∧ q ≠ .null

theorem PolicersFit.empty (h : NoRules db) (hpol : NoRulesPoliced db) :
    PolicersFit db := by
  refine ⟨fun q l hl => (hpol q l hl).2, fun q l hl p => ?_, fun q l hl => ?_,
    fun p rule hp => ?_, fun p rule hp => ?_⟩
  · rw [(hpol q l hl).1]
    simp [h.rules]
  · rw [(hpol q l hl).1]
    exact List.nodup_nil
  · exact absurd hp (by simp [h.rules])
  · exact absurd hp (by simp [h.rules])

/-- **Rules and policers stay attached as configured**: in every state that calls which meet the
condition lead to from a state without rules, and at the next such call. -/
theorem policersConsistent_of_run {db₀ db : AclDb} (hempty : NoRules db₀)
    (hpol : NoRulesPoliced db₀) (hrun : Run aclRuleStep PolicerOpOk db₀ db) :
    PolicersConsistent db ∧ ∀ c, PolicerOpOk c db → PolicerChangedBySet c db := by
  have hboth : RulesOk db ∧ PolicersFit db :=
    hrun.induct (P := fun db => RulesOk db ∧ PolicersFit db)
      (fun c _ h hop => ⟨h.1.step, h.2.step hop⟩) ⟨.empty hempty, .empty hempty hpol⟩
  exact ⟨.of_fit hboth.1 hboth.2, fun c hop => hboth.2.changed_by_set hboth.1 hop⟩

theorem policersConsistent_of_run_replace :
    let env := AclEnv.good (fun _ => .invalid) []
    let tid := uoidCreate .aclTable 1
    let first := uoidCreate .aclEntry 0
    let policer := fun n => uoidCreate .policer n
    let attr : Nat → AclAttr := fun n => ⟨.action .setPolicer, ⟨true, .oid (policer n), .zero⟩⟩
    let db₀ := AclDb.oneTable tid fun q => q = policer 1 ∨ q = policer 2
    let db₁ := aclRuleStep ⟨env, .create (prioritisedRule tid 10)⟩ db₀
    let db₂ := aclRuleStep ⟨env, .set first (attr 1)⟩ db₁
    let db₃ := aclRuleStep ⟨env, .set first (attr 2)⟩ db₂
    let db₄ := aclRuleStep ⟨env, .delete first⟩ db₃
    db₂.policer_tree (policer 1) = some [1] ∧ db₃.policer_tree (policer 1) = some [] ∧
      db₃.policer_tree (policer 2) = some [1] ∧ PolicersConsistent db₃ ∧
      PolicersConsistent db₄ := by
  intro env tid first policer attr db₀ db₁ db₂ db₃ db₄
  have hempty : NoRules db₀ := .oneTable tid _
  have hpol : NoRulesPoliced db₀ := by
    intro q l hl
    have hif : (if decide (q = policer 1 ∨ q = policer 2) then some ([] : List Ptr) else none) =
        some l := hl
    split at hif
    next hq =>
      refine ⟨(Option.some.inj hif).symm, ?_⟩
      rintro rfl
      cases hq
    · cases hif
  have hset : ∀ d n, (d.policer_tree (policer n)).isSome →
      PolicerOpOk ⟨env, .set first (attr n)⟩ d := by
    intro d n hsome p present table modify _ _ _ _ _ _ _
    rw [if_pos rfl]
    exact fun _ => ⟨hsome, fun _ => rfl⟩
  have hrun₁ : Run aclRuleStep PolicerOpOk db₀ db₁ := .snoc _ (.nil _) fun _ _ _ _ _ => rfl
  have hrun₂ : Run aclRuleStep PolicerOpOk db₀ db₂ := .snoc _ hrun₁ (hset db₁ 1 (by decide))
  have hrun₃ : Run aclRuleStep PolicerOpOk db₀ db₃ := .snoc _ hrun₂ (hset db₂ 2 (by decide))
  have hrun₄ : Run aclRuleStep PolicerOpOk db₀ db₄ := .snoc _ hrun₃ trivial
  exact ⟨by decide, by decide, by decide, (policersConsistent_of_run hempty hpol hrun₃).1,
    (policersConsistent_of_run hempty hpol hrun₄).1⟩

/-- The priority of a rule with a policer is set, and its policer is gone. -/
theorem not_policersConsistent_priority :
    let env := AclEnv.good (fun _ => .invalid) []
    let tid := uoidCreate .aclTable 1
    let first := uoidCreate .aclEntry 0
    let policer := uoidCreate .policer 1
    let db₀ := AclDb.oneTable tid fun q => q = policer
    let db₁ := aclRuleStep ⟨env, .create
      (prioritisedRule tid 10 ++ [⟨.action .setPolicer, ⟨true, .oid policer, .zero⟩⟩])⟩ db₀
    let x := aclRuleExec ⟨env, .set first ⟨.priority, ⟨false, .u32 20, .zero⟩⟩⟩ db₁
    x.1 = .success ∧ db₁.policer_tree policer = some [1] ∧ ¬ PolicersConsistent x.2 := by
  intro env tid first policer db₀ db₁ x
  refine ⟨by decide, by decide, fun h => ?_⟩
  have hfind : (aclRuleFind first x.2).isSome := by decide
  obtain ⟨found, hfound⟩ := Option.isSome_iff_exists.mp hfind
  have hpolicer : (aclRuleFind first x.2).map (·.2.policer_id) = some .null := by decide
  have haction : (aclRuleFind first x.2).map (fun y => actionOid .setPolicer y.2.action_list) =
      some policer := by decide
  rw [hfound] at hpolicer haction
  have hnone : found.2.policer_id = .null := Option.some.inj hpolicer
  have hsome : actionOid .setPolicer found.2.action_list = policer := Option.some.inj haction
  have hsame := h.action _ _ _ hfound
  rw [hnone, hsome] at hsame
  exact absurd hsame (by decide)

end OpxSai
