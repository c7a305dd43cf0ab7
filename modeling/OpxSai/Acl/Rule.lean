import OpxSai.Acl.RuleAttr

/-!
# ACL rules

A rule is found in the rule tree by its id and in the list of its table by its priority. Beside
these it may be attached to a counter and to a policer, and it may sample on ports.
-/

variable (env : AclEnv)

namespace OpxSai

open AclDb

/-! ## Trees and lists -/

/-- `sai_acl_rule_find`: a rule that was freed has no id to be found by. -/
def aclRuleFind (acl_id : Oid) (db : AclDb) : Option (Ptr × AclRule) :=
  match db.rule_tree acl_id with
  | none => none
  | some p => (db.rules.get p).map fun rule => (p, rule)

/-- The first index from `index` on that is not used, of `fuel` many. -/
def firstUnused (used : Nat → Bool) : Nat → Nat → Option Nat
  | 0, _ => none
  | fuel + 1, index => if used index then firstUnused used fuel (index + 1) else some index

/-- `sai_allocate_acl_rule_index`: 32 bits of indices are tried. -/
def allocateAclRuleIndex (db : AclDb) : Option Nat :=
  firstUnused (fun n => (aclRuleFind (uoidCreate .aclEntry n) db).isSome) (2 ^ 32) 0

def rulePriority (db : AclDb) (p : Ptr) : BitVec 32 :=
  match db.rules.get p with
  | none => 0
  | some rule => rule.acl_rule_priority

/-- `acl_rule_priority_compare` -/
def aclRulePriorityCompare (db : AclDb) (current node : Ptr) : Ordering :=
  if (rulePriority db node).toNat < (rulePriority db current).toNat then .gt
  else if (rulePriority db current).toNat < (rulePriority db node).toNat then .lt
  else .eq

/-- `sai_acl_rule_link` -/
def aclRuleLink (table_id : Oid) (p : Ptr) (db : AclDb) : AclDb :=
  db.modTable table_id fun table =>
    { table with rule_head := env.dll_insert.insert (aclRulePriorityCompare db) p table.rule_head }

/-- `sai_acl_rule_unlink` -/
def aclRuleUnlink (table_id : Oid) (p : Ptr) (db : AclDb) : AclDb :=
  db.modTable table_id fun table => { table with rule_head := aclDllRemove env p table.rule_head }

/-- `sai_acl_rule_validate`: the first rule of the list with the id. -/
def aclRuleValidate (table : AclTable) (acl_id : Oid) (db : AclDb) : Option Ptr :=
  table.rule_head.find? fun p =>
    match db.rules.get p with
    | none => false
    | some rule => rule.acl_id = acl_id

/-- `sai_acl_rule_free` -/
def aclRuleFree (p : Ptr) (db : AclDb) : AclDb := { db with rules := db.rules.free p }

/-! ## Counter and policer -/

/-- `sai_attach_cntr_to_acl_rule` -/
def attachCntrToAclRule (rule : AclRule) (db : AclDb) : Status × AclDb :=
  match db.counter_tree rule.counter_id with
  | none => (.invalidObjectId, db)
  | some _ => db.call env (.attachCntr rule.acl_id rule.counter_id)

/-- `sai_detach_cntr_from_acl_rule` -/
def detachCntrFromAclRule (rule : AclRule) (db : AclDb) : Status × AclDb :=
  match db.counter_tree rule.counter_id with
  | none => (.invalidObjectId, db)
  | some table_id =>
    if table_id ≠ rule.table_id then (.failure, db)
    else db.call env (.detachCntr rule.acl_id rule.counter_id)

/-- `sai_attach_policer_to_acl_rule` -/
def attachPolicerToAclRule (p : Ptr) (policer_id : Oid) (db : AclDb) : Status × AclDb :=
  match db.policer_tree policer_id with
  | none => (.invalidObjectId, db)
  | some _ => (.success, db.modPolicer policer_id fun acl_dll_head => acl_dll_head ++ [p])

/-- `sai_detach_policer_from_acl_rule` -/
def detachPolicerFromAclRule (p : Ptr) (policer_id : Oid) (db : AclDb) : Status × AclDb :=
  match db.policer_tree policer_id with
  | none => (.invalidObjectId, db)
  | some _ => (.success, db.modPolicer policer_id (aclDllRemove env p))

/-! ## Sample packet -/

/-- The ports an ingress sample action is about: those of the first field that is about ports.
Without one it is about all of them. -/
def aclRuleSamplePorts : List AclFilter → Option (List Oid)
  | [] => none
  | filter :: filter_list =>
    if aclPortlistAttr filter.field then some filter.match_data.objs
    else if aclPortAttr filter.field then some [filter.match_data.getOid]
    else aclRuleSamplePorts filter_list

def aclRulePortsIn (rule : AclRule) : SampleDirection → Option (List Oid)
  | .ingress => aclRuleSamplePorts rule.filter_list
  | .egress => none

/-- The variables that the loop over the actions sets at a sample action and keeps. -/
structure SampleScan where
  is_sample_enable : Bool
  sample_object : Oid
  sample_direction : SampleDirection
deriving DecidableEq

/-- The loop of `sai_acl_rule_create_samplepacket`. An action behind an enabled sample action puts
that sample on its ports once more, and `rc` is that of the last time. -/
def aclRuleSampleActions (env : AclEnv) (rule : AclRule) (rc : Status) (scan : SampleScan) :
    List AclAction → SampleAclDb → Status × SampleAclDb
  | [], db => (rc, db)
  | action :: action_list, db =>
    let scan : SampleScan := match aclGetSampleDirection action.action with
      | some direction => ⟨action.enable, action.parameter.getOid, direction⟩
      | none => scan
    if scan.is_sample_enable then
      let x := samplepacketValidateObject env.sample (aclRulePortsIn rule scan.sample_direction)
        scan.sample_object scan.sample_direction true true db
      aclRuleSampleActions env rule x.1 scan action_list x.2
    else aclRuleSampleActions env rule rc scan action_list db

/-- `sai_acl_rule_create_samplepacket`; nothing is enabled before the first sample action. -/
def aclRuleCreateSamplepacket (rule : AclRule) (db : AclDb) : Status × AclDb :=
  let x := aclRuleSampleActions env rule .success ⟨false, .null, .ingress⟩ rule.action_list
    db.sample
  (x.1, { db with sample := x.2 })

/-- The loop of `sai_acl_rule_remove_samplepacket`: sample actions that are not enabled are
removed as well. -/
def aclRuleUnsampleActions (env : AclEnv) (rule : AclRule) :
    List AclAction → SampleAclDb → SampleAclDb
  | [], db => db
  | action :: action_list, db =>
    match aclGetSampleDirection action.action with
    | some direction =>
      aclRuleUnsampleActions env rule action_list (samplepacketRemoveObject env.sample
        (aclRulePortsIn rule direction) action.parameter.getOid direction db).2
    | none => aclRuleUnsampleActions env rule action_list db

/-- `sai_acl_rule_remove_samplepacket`, which always succeeds -/
def aclRuleRemoveSamplepacket (rule : AclRule) (db : AclDb) : AclDb :=
  { db with sample := aclRuleUnsampleActions env rule rule.action_list db.sample }

def aclRuleHasSample (rule : AclRule) : Bool :=
  rule.ingress_sample_id ≠ .null ∨ rule.egress_sample_id ≠ .null

def lastSampleAction : List AclAction → Option SampleScan
  | [] => none
  | action :: action_list =>
    match lastSampleAction action_list with
    | some scan => some scan
    | none =>
      (aclGetSampleDirection action.action).map fun direction =>
        ⟨action.enable, action.parameter.getOid, direction⟩

/-- The walk of `sai_acl_rule_validate_update_samplepacket` over the port lists of the rule for a
sample action; the flag is `port_set`. -/
def aclRuleSetSampleOnLists (env : AclEnv) (orig : AclRule) (scan : SampleScan)
    (validate update : Bool) (rc : Status) :
    List AclFilter → SampleAclDb → Status × Bool × SampleAclDb
  | [], db => (rc, false, db)
  | filter :: filter_list, db =>
    if aclPortlistAttr filter.field then
      let ports := some filter.match_data.objs
      let old := orig.samplepacket_id scan.sample_direction
      let x := if validate then
        samplepacketRemoveObject env.sample ports old scan.sample_direction db else (rc, db)
      if scan.is_sample_enable then
        let y := samplepacketValidateObject env.sample ports scan.sample_object
          scan.sample_direction validate update x.2
        let db := if validate ∧ y.1 ≠ .success then
          (samplepacketValidateObject env.sample ports old scan.sample_direction true true y.2).2
          else y.2
        (y.1, true, db)
      else aclRuleSetSampleOnLists env orig scan validate update x.1 filter_list x.2
    else aclRuleSetSampleOnLists env orig scan validate update rc filter_list db

/-- `sai_acl_rule_validate_update_samplepacket` for the set of a sample action. -/
def aclRuleSetSample (orig : AclRule) (scan : SampleScan)
    (validate update : Bool) (db : SampleAclDb) : Status × SampleAclDb :=
  let x := match scan.sample_direction with
    | .ingress => aclRuleSetSampleOnLists env orig scan validate update .success orig.filter_list db
    | .egress => (.success, false, db)
  if x.2.1 then (x.1, x.2.2)
  else
    let y := if validate then
      samplepacketRemoveObject env.sample none (orig.samplepacket_id scan.sample_direction)
        scan.sample_direction x.2.2
      else (x.1, x.2.2)
    if scan.is_sample_enable then
      samplepacketValidateObject env.sample none scan.sample_object scan.sample_direction
        validate update y.2
    else y

/-- `sai_acl_rule_validate_update_samplepacket` for the set of a port list: `ports` are the new
ones, `old_ports` those of the field of the rule that has the same place. -/
def aclRuleSetSamplePorts (orig : AclRule) (ports old_ports : List Oid)
    (validate update : Bool) (db : SampleAclDb) : Status × SampleAclDb :=
  match orig.action_list.find? fun a => a.action = .ingressSamplepacketEnable with
  | none => (.success, db)
  | some action =>
    let old := orig.samplepacket_id .ingress
    let x := if validate then
      samplepacketRemoveObject env.sample (some old_ports) old .ingress db else (.success, db)
    if x.1 ≠ .success then x
    else if action.enable then
      let y := samplepacketValidateObject env.sample (some ports) action.parameter.getOid .ingress
        validate update x.2
      let db := if validate ∧ y.1 ≠ .success then
        (samplepacketValidateObject env.sample (some old_ports) old .ingress true true y.2).2
        else y.2
      (y.1, db)
    else x

/-- `sai_acl_rule_validate_update_samplepacket` -/
def aclRuleValidateUpdateSamplepacket (rule orig : AclRule)
    (validate update : Bool) (db : AclDb) : Status × AclDb :=
  match lastSampleAction rule.action_list with
  | some scan =>
    let x := aclRuleSetSample env orig scan validate update db.sample
    (x.1, { db with sample := x.2 })
  | none =>
    match rule.filter_list.findIdx? fun f => aclPortlistAttr f.field with
    | none => (.success, db)
    | some filter_index =>
      let portsAt := fun (r : AclRule) =>
        (r.filter_list[filter_index]?).elim [] fun f => f.match_data.objs
      let x := aclRuleSetSamplePorts env orig (portsAt rule) (portsAt orig) validate update
        db.sample
      (x.1, { db with sample := x.2 })

/-! ## Create -/

/-- `sai_install_acl_rule`: the first rule brings its table into the NPU. -/
def installAclRule (table_id : Oid) (table : AclTable) (rule : AclRule)
    (db : AclDb) : Status × AclDb :=
  if !table.in_npu then
    let x := db.call env (.createTable table_id)
    if x.1 ≠ .success then x
    else (x.2.modTable table_id fun table => { table with in_npu := true }).call env
      (.createRule rule)
  else db.call env (.createRule rule)

/-- `sai_acl_validate_create_rule` -/
def aclValidateCreateRule (rule : AclRule) (db : AclDb) : Status :=
  if rule.table_id = .null then .mandatoryAttributeMissing
  else if rule.counter_id ≠ .null then
    match db.counter_tree rule.counter_id with
    | none => .invalidObjectId
    | some table_id => if table_id ≠ rule.table_id then .invalidObjectId else .success
  else .success

/-- The steps of `sai_create_acl_rule` after the sample packet: counter, policer, tree. -/
def aclRuleAttach (p : Ptr) (rule : AclRule) (db : AclDb) : Status × AclDb :=
  let x := if rule.counter_id ≠ .null then attachCntrToAclRule env rule db else (.success, db)
  if x.1 ≠ .success then x
  else
    let y := if rule.policer_id ≠ .null then attachPolicerToAclRule p rule.policer_id x.2
      else (.success, x.2)
    if y.1 ≠ .success then y
    else if !env.avail .ruleTree then (.failure, y.2)
    else
      (.success, { y.2 with
        rule_tree := fun r => if r = rule.acl_id then some p else y.2.rule_tree r })

/-- The end of `sai_create_acl_rule` when a step failed after the rule was installed: neither
counter nor policer is taken back. -/
def aclRuleUninstall (p : Ptr) (rule : AclRule) (samplepacket_installed : Bool) (db : AclDb) : AclDb :=
  let db := (db.call env (.deleteRule rule)).2
  let db := if samplepacket_installed then aclRuleRemoveSamplepacket env rule db else db
  aclRuleFree p db

/-- The steps of `sai_create_acl_rule` from the installed rule on. -/
def aclRuleActivate (table_id : Oid) (p : Ptr) (rule : AclRule) (db : AclDb) : Status × AclDb :=
  let x := if aclRuleHasSample rule then aclRuleCreateSamplepacket env rule db else (.success, db)
  if x.1 ≠ .success then (x.1, aclRuleUninstall env p rule false x.2)
  else
    let y := aclRuleAttach env p rule x.2
    if y.1 ≠ .success then (y.1, aclRuleUninstall env p rule (aclRuleHasSample rule) y.2)
    else
      (.success, (aclRuleLink env table_id p y.2).modTable table_id fun table =>
        { table with rule_count := table.rule_count + 1 })

/-- `sai_create_acl_rule` -/
def aclRuleCreate (attr_list : List AclAttr) (db : AclDb) : Status × AclDb :=
  if attr_list = [] then (.invalidParameter, db)
  else
    match aclCheckRuleAttributes 0 ⟨0, 0, .null⟩ attr_list with
    | .error rc => (rc, db)
    | .ok counts =>
      if counts.field_count = 0 then (.mandatoryAttributeMissing, db)
      else
        match db.table_tree counts.acl_table_id with
        | none => (.invalidObjectId, db)
        | some table =>
          if !env.avail .rule then (.noMemory, db)
          else
            let p := db.rules.next
            match aclRulePopulate env table .zero attr_list with
            | .error rc => (rc, aclRuleFree p { db with rules := db.rules.alloc .zero })
            | .ok rule =>
              let db := { db with rules := db.rules.alloc rule }
              let rc := aclValidateCreateRule rule db
              if rc ≠ .success then (rc, aclRuleFree p db)
              else
                match allocateAclRuleIndex db with
                | none => (.failure, aclRuleFree p db)
                | some acl_rule_index =>
                  let rule := { rule with acl_id := uoidCreate .aclEntry acl_rule_index }
                  let db := db.modRule p fun _ => rule
                  let x := installAclRule env counts.acl_table_id table rule db
                  if x.1 ≠ .success then (x.1, aclRuleFree p x.2)
                  else aclRuleActivate env counts.acl_table_id p rule x.2

/-! ## Delete -/

/-- What `sai_delete_acl_rule` has undone by the time a step fails. -/
structure AclDetached where
  samplepacket_removed : Bool
  cntr_detached : Bool
  policer_detached : Bool

/-- The end of `sai_delete_acl_rule` when a step failed. -/
def aclRuleReattach (p : Ptr) (rule : AclRule) (d : AclDetached) (db : AclDb) : AclDb :=
  let db := if d.samplepacket_removed then (aclRuleCreateSamplepacket env rule db).2 else db
  let db := if d.cntr_detached then (attachCntrToAclRule env rule db).2 else db
  if d.policer_detached then (attachPolicerToAclRule p rule.policer_id db).2 else db

/-- `sai_delete_acl_rule` -/
def aclRuleDelete (acl_id : Oid) (db : AclDb) : Status × AclDb :=
  if acl_id.type ≠ .aclEntry then (.invalidObjectType, db)
  else
    match aclRuleFind acl_id db with
    | none => (.invalidObjectId, db)
    | some (p, rule) =>
      match db.table_tree rule.table_id with
      | none => (.invalidObjectId, db)
      | some table =>
        if aclRuleValidate table rule.acl_id db ≠ some p then (.failure, db)
        else
          let has_sample := aclRuleHasSample rule
          let has_cntr : Bool := rule.counter_id ≠ .null
          let has_policer : Bool := rule.policer_id ≠ .null
          let db := if has_sample then aclRuleRemoveSamplepacket env rule db else db
          let x := if has_cntr then detachCntrFromAclRule env rule db else (.success, db)
          if x.1 ≠ .success then (x.1, aclRuleReattach env p rule ⟨has_sample, false, false⟩ x.2)
          else
            let y := if has_policer then detachPolicerFromAclRule env p rule.policer_id x.2
              else (.success, x.2)
            if y.1 ≠ .success then
              (y.1, aclRuleReattach env p rule ⟨has_sample, has_cntr, false⟩ y.2)
            else
              let z := y.2.call env (.deleteRule rule)
              if z.1 ≠ .success then
                (z.1, aclRuleReattach env p rule ⟨has_sample, has_cntr, has_policer⟩ z.2)
              else
                let db := { z.2 with
                  rule_tree := fun r => if r = rule.acl_id then none else z.2.rule_tree r }
                let db := (aclRuleUnlink env rule.table_id p db).modTable rule.table_id
                  fun table => { table with rule_count := table.rule_count - 1 }
                (.success, aclRuleFree p db)

/-! ## Set: what changes -/

/-- `memcmp` of two unions, the first of which was just filled: a list in it has memory of its
own, so its pointer is not the other's. -/
def memDiffers (scan given : AclValue) : Bool :=
  match scan with
  | .objlist _ => true
  | scan => scan ≠ given

/-- `sai_acl_check_filter_change`. The rule that is compared with has copies of the port lists. -/
def aclCheckFilterChange (given scan : AclFilter) : Bool :=
  if scan.enable ≠ given.enable then true
  else if aclUdfFieldAttrRange scan.field then
    scan.match_data.bytes ≠ given.match_data.bytes ∨ scan.match_mask.bytes ≠ given.match_mask.bytes
  else if aclObjectListFieldAttr scan.field then true
  else memDiffers scan.match_data given.match_data ∨ memDiffers scan.match_mask given.match_mask

/-- `sai_acl_check_action_change` -/
def aclCheckActionChange (given scan : AclAction) : Bool :=
  if scan.enable ≠ given.enable then true
  else if aclObjectListActionAttr scan.action then true
  else memDiffers scan.parameter given.parameter

/-- `sai_acl_rule_set_field_action`: each field and action of the scan rule is new to the given
rule, or it is marked if it changes there. -/
def aclRuleSetFieldAction (scan given : AclRule) : AclRule :=
  { scan with
    filter_list := scan.filter_list.map fun f =>
      match given.filter_list.find? fun g => g.field = f.field with
      | some g => { f with field_change := aclCheckFilterChange g f }
      | none => { f with new_field := true }
    action_list := scan.action_list.map fun a =>
      match given.action_list.find? fun g => g.action = a.action with
      | some g => { a with action_change := aclCheckActionChange g a }
      | none => { a with new_action := true } }

/-! ## Set: the update -/

/-- `sai_acl_rule_update_object_list` -/
def aclRuleUpdateObjectList (env : AclEnv) (src dst : AclValue) (src_action : Bool) :
    Status × AclValue :=
  if dst.objs ≠ [] then
    if !src_action then (.success, .zero)
    else if src.objs ≠ [] ∧ src.objs.length ≠ dst.objs.length then
      if !env.avail .updateValue then (.noMemory, dst) else (.success, .objlist src.objs)
    else if src.objs.length = dst.objs.length then (.success, .objlist src.objs)
    else (.success, dst)
  else if src_action ∧ src.objs ≠ [] then
    if !env.avail .updateValue then (.noMemory, dst) else (.success, .objlist src.objs)
  else (.success, dst)

/-- `memcpy` of `n` bytes from a list, which may be shorter. -/
def copyBytes (n : Nat) (list : List (BitVec 8)) : List (BitVec 8) :=
  (List.range n).map fun i => (list[i]?).getD (env.beyond i)

/-- `sai_acl_rule_update_byte_list`. The mask is copied with the count of the data. -/
def aclRuleUpdateByteList (src_data src_mask dst_data dst_mask : AclValue)
    (src_action : Bool) : Status × AclValue × AclValue :=
  let byte_cnt := src_data.bytes.length
  let copied := (AclValue.u8list src_data.bytes,
    AclValue.u8list (copyBytes env byte_cnt src_mask.bytes))
  if dst_data.bytes ≠ [] ∨ dst_mask.bytes ≠ [] then
    if dst_data.bytes = [] ∨ dst_mask.bytes = [] then (.failure, dst_data, dst_mask)
    else if !src_action then (.success, .zero, .zero)
    else if byte_cnt ≠ 0 ∧ byte_cnt ≠ dst_data.bytes.length then
      if !env.avail .updateValue then (.noMemory, dst_data, dst_mask) else (.success, copied)
    else if byte_cnt = dst_data.bytes.length ∧ byte_cnt = dst_mask.bytes.length then
      (.success, copied)
    else (.success, dst_data, dst_mask)
  else if src_action ∧ byte_cnt ≠ 0 then
    if !env.avail .updateValue then (.noMemory, dst_data, dst_mask) else (.success, copied)
  else (.success, dst_data, dst_mask)

def aclRuleUpdateFilter (scan given : AclFilter) : Status × AclFilter :=
  let given := { given with enable := scan.enable }
  if aclObjectListFieldAttr given.field then
    let x := aclRuleUpdateObjectList env scan.match_data given.match_data scan.enable
    if x.1 ≠ .success then (x.1, given)
    else (.success, { given with match_data := x.2, field_change := false })
  else if aclUdfFieldAttrRange given.field then
    let x := aclRuleUpdateByteList env scan.match_data scan.match_mask given.match_data
      given.match_mask scan.enable
    if x.1 ≠ .success then (x.1, given)
    else (.success, { given with
      match_data := x.2.1
      match_mask := x.2.2
      field_change := false })
  else (.success, { scan with field_change := false })

/-- A field that is new to the rule, in memory after `calloc`: lists are copied member by member,
and anything else as a whole. -/
def aclRuleNewFilter (scan : AclFilter) : Status × AclFilter :=
  let filter := AclFilter.new scan.field scan.enable
  if aclObjectListFieldAttr scan.field then
    let x := aclRuleUpdateObjectList env scan.match_data filter.match_data scan.enable
    (x.1, { filter with match_data := x.2 })
  else if aclUdfFieldAttrRange scan.field then
    let x := aclRuleUpdateByteList env scan.match_data scan.match_mask filter.match_data
      filter.match_mask scan.enable
    (x.1, { filter with match_data := x.2.1, match_mask := x.2.2 })
  else (.success, { scan with new_field := false })

def updateFirst {α : Type} (chosen : α → Bool) (new : α) : List α → List α
  | [] => []
  | a :: l => if chosen a then new :: l else a :: updateFirst chosen new l

/-- The loop of `sai_acl_rule_update_field_action` over the fields that change. -/
def aclRuleChangeFields (env : AclEnv) : List AclFilter → AclRule → Status × AclRule
  | [], given => (.success, given)
  | scan :: filter_list, given =>
    if !scan.field_change then aclRuleChangeFields env filter_list given
    else
      match given.filter_list.find? fun g => g.field = scan.field with
      | none => aclRuleChangeFields env filter_list given
      | some g =>
        let x := aclRuleUpdateFilter env scan g
        let given := { given with
          filter_list := updateFirst (fun g => g.field = scan.field) x.2 given.filter_list }
        if x.1 ≠ .success then (x.1, given) else aclRuleChangeFields env filter_list given

/-- The fields of `sai_acl_rule_update_new_fields`, behind those that there are. -/
def aclRuleAppendFields (env : AclEnv) : List AclFilter → List AclFilter →
    Status × List AclFilter
  | [], filters => (.success, filters)
  | scan :: filter_list, filters =>
    if !scan.new_field then aclRuleAppendFields env filter_list filters
    else
      let x := aclRuleNewFilter env scan
      if x.1 ≠ .success then (x.1, filters)
      else aclRuleAppendFields env filter_list (filters ++ [x.2])

/-- `sai_acl_rule_update_new_fields` -/
def aclRuleUpdateNewFields (scan given : AclRule) : Status × AclRule :=
  if !scan.filter_list.any (·.new_field) then (.success, given)
  else if !env.avail .newFields then (.noMemory, given)
  else
    let x := aclRuleAppendFields env scan.filter_list given.filter_list
    if x.1 ≠ .success then (x.1, given) else (.success, { given with filter_list := x.2 })

/-- `sai_acl_rule_update_counter_action` -/
def aclRuleUpdateCounterAction (scan given : AclRule) (counter_action : Bool)
    (db : AclDb) : Status × AclRule × AclDb :=
  if !counter_action then
    if given.counter_id ≠ .null then
      let x := detachCntrFromAclRule env given db
      if x.1 ≠ .success then (x.1, given, x.2)
      else (.success, { given with counter_id := .null }, x.2)
    else (.success, given, db)
  else if given.counter_id ≠ .null then
    if scan.counter_id ≠ given.counter_id then
      let x := detachCntrFromAclRule env given db
      if x.1 ≠ .success then (x.1, given, x.2)
      else
        let given := { given with counter_id := scan.counter_id }
        let y := attachCntrToAclRule env given x.2
        (y.1, given, y.2)
    else (.success, given, db)
  else
    let given := { given with counter_id := scan.counter_id }
    let y := attachCntrToAclRule env given db
    (y.1, given, y.2)

def aclRuleUpdateAction (scan_rule : AclRule) (scan act : AclAction)
    (given : AclRule) (db : AclDb) : Status × AclRule × AclDb :=
  let put := fun (act : AclAction) (given : AclRule) =>
    { given with
      action_list := updateFirst (fun g => g.action = scan.action) act given.action_list }
  if aclObjectListActionAttr act.action then
    let act := { act with enable := scan.enable }
    let x := aclRuleUpdateObjectList env scan.parameter act.parameter scan.enable
    if x.1 ≠ .success then (x.1, put act given, db)
    else (.success, put { act with parameter := x.2, action_change := false } given, db)
  else
    let x := if scan.action = .counter then
      aclRuleUpdateCounterAction env scan_rule given scan.enable db else (.success, given, db)
    if x.1 ≠ .success then x
    else (.success, put { scan with action_change := false } x.2.1, x.2.2)

/-- The loop of `sai_acl_rule_update_field_action` over the actions that change. -/
def aclRuleChangeActions (env : AclEnv) (scan_rule : AclRule) :
    List AclAction → AclRule → AclDb → Status × AclRule × AclDb
  | [], given, db => (.success, given, db)
  | scan :: action_list, given, db =>
    if !scan.action_change then aclRuleChangeActions env scan_rule action_list given db
    else
      match given.action_list.find? fun g => g.action = scan.action with
      | none => aclRuleChangeActions env scan_rule action_list given db
      | some act =>
        let x := aclRuleUpdateAction env scan_rule scan act given db
        if x.1 ≠ .success then x
        else aclRuleChangeActions env scan_rule action_list x.2.1 x.2.2

/-- The actions of `sai_acl_rule_update_new_actions`, behind those that there are. -/
def aclRuleAppendActions (env : AclEnv) (scan_rule : AclRule) :
    List AclAction → List AclAction → AclRule → AclDb →
    Status × List AclAction × AclRule × AclDb
  | [], actions, given, db => (.success, actions, given, db)
  | scan :: action_list, actions, given, db =>
    if !scan.new_action then aclRuleAppendActions env scan_rule action_list actions given db
    else if aclObjectListActionAttr scan.action then
      let act := AclAction.new scan.action scan.enable
      let x := aclRuleUpdateObjectList env scan.parameter act.parameter scan.enable
      if x.1 ≠ .success then (x.1, actions, given, db)
      else aclRuleAppendActions env scan_rule action_list
        (actions ++ [{ act with parameter := x.2 }]) given db
    else
      let x := if scan.action = .counter then
        aclRuleUpdateCounterAction env scan_rule given scan.enable db else (.success, given, db)
      if x.1 ≠ .success then (x.1, actions, x.2.1, x.2.2)
      else aclRuleAppendActions env scan_rule action_list
        (actions ++ [{ scan with new_action := false }]) x.2.1 x.2.2

/-- `sai_acl_rule_update_new_actions` -/
def aclRuleUpdateNewActions (scan given : AclRule) (db : AclDb) : Status × AclRule × AclDb :=
  if !scan.action_list.any (·.new_action) then (.success, given, db)
  else if !env.avail .newActions then (.noMemory, given, db)
  else
    let x := aclRuleAppendActions env scan scan.action_list given.action_list given db
    if x.1 ≠ .success then (x.1, x.2.2.1, x.2.2.2)
    else (.success, { x.2.2.1 with action_list := x.2.1 }, x.2.2.2)

/-- `sai_acl_rule_update_field_action`: changes first, then what is new. -/
def aclRuleUpdateFieldAction (scan given : AclRule) (db : AclDb) : Status × AclRule × AclDb :=
  let x := aclRuleChangeFields env scan.filter_list given
  if x.1 ≠ .success then (x.1, x.2, db)
  else
    let y := aclRuleChangeActions env scan scan.action_list x.2 db
    if y.1 ≠ .success then y
    else
      let z := aclRuleUpdateNewFields env scan y.2.1
      if z.1 ≠ .success then (z.1, z.2, y.2.2)
      else aclRuleUpdateNewActions env scan z.2 y.2.2

/-- `sai_acl_rule_update`. What fails in the fields and the actions is logged. -/
def aclRuleUpdate (scan given : AclRule) (priority_change state_change : Bool)
    (db : AclDb) : AclRule × AclDb :=
  let given := if priority_change then
    { given with acl_rule_priority := scan.acl_rule_priority } else given
  let given := if state_change then { given with acl_rule_state := scan.acl_rule_state } else given
  (aclRuleUpdateFieldAction env scan given db).2

/-- `sai_acl_rule_scan_and_mod` -/
def aclRuleScanAndMod (p : Ptr) (scan given : AclRule) (db : AclDb) : Status × AclDb :=
  if !env.avail .compareRule then (.noMemory, db)
  else if !env.avail .compareValues then (.noMemory, db)
  else
    let x := db.call env (.copyRule given)
    if x.1 ≠ .success then x
    else
      let priority_change : Bool := scan.acl_rule_priority ≠ given.acl_rule_priority
      -- a state that is the default one is not taken for a change
      let state_change : Bool := scan.acl_rule_state ≠ env.default_state ∧
        scan.acl_rule_state ≠ given.acl_rule_state
      let scan := aclRuleSetFieldAction scan given
      let y := x.2.call env (.setRule scan given)
      if y.1 ≠ .success then y
      else
        let z := aclRuleUpdate env scan given priority_change state_change y.2
        (.success, z.2.modRule p fun _ => z.1)

/-! ## Set -/

/-- `sai_acl_validate_set_rule` -/
def aclValidateSetRule (modify given : AclRule) (db : AclDb) : Status :=
  if modify.table_id ≠ .null ∧ modify.table_id ≠ given.table_id then .attrNotSupported 0
  else if modify.counter_id ≠ .null ∧ modify.counter_id ≠ given.counter_id then
    match db.counter_tree modify.counter_id with
    | none => .invalidObjectId
    | some table_id => if table_id ≠ given.table_id then .invalidObjectId else .success
  else .success

/-- `sai_acl_rule_policer_update`: a set of any other attribute comes with the null policer. -/
def aclRulePolicerUpdate (p : Ptr) (modify present : AclRule) (db : AclDb) : Status × AclDb :=
  if modify.policer_id ≠ .null then
    if modify.policer_id = present.policer_id then (.success, db)
    else
      let x := if present.policer_id ≠ .null then
        detachPolicerFromAclRule env p present.policer_id db else (.success, db)
      if x.1 ≠ .success then x
      else
        let db := x.2.modRule p fun rule => { rule with policer_id := modify.policer_id }
        attachPolicerToAclRule p modify.policer_id db
  else if present.policer_id ≠ .null then
    let x := detachPolicerFromAclRule env p present.policer_id db
    if x.1 ≠ .success then x
    else (.success, x.2.modRule p fun rule => { rule with policer_id := .null })
  else (.success, db)

/-- The rule that an attribute makes for itself, as far as `sai_set_acl_rule` needs it. -/
def aclRuleModify (table : AclTable) (present : AclRule) (attr : AclAttr) : Except Status AclRule :=
  match aclRulePopulate env table { AclRule.zero with acl_id := present.acl_id } [attr] with
  | .error rc => .error rc
  | .ok modify =>
    .ok (if attr.id ≠ .priority then
      { modify with acl_rule_priority := present.acl_rule_priority } else modify)

/-- `sai_set_acl_rule`. The policer comes last, for an attribute of any kind. -/
def aclRuleSet (acl_id : Oid) (attr : AclAttr) (db : AclDb) : Status × AclDb :=
  if acl_id.type ≠ .aclEntry then (.invalidObjectType, db)
  else
    match aclCheckRuleAttributes 0 ⟨0, 0, .null⟩ [attr] with
    | .error rc => (rc, db)
    | .ok _ =>
      match aclRuleFind acl_id db with
      | none => (.invalidObjectId, db)
      | some (p, present) =>
        match db.table_tree present.table_id with
        -- an assertion in the source
        | none => (.failure, db)
        | some table =>
          if !env.avail .scanRule then (.noMemory, db)
          else
            match aclRuleModify env table present attr with
            | .error rc => (rc, db)
            | .ok modify =>
              let rc := aclValidateSetRule modify present db
              if rc ≠ .success then (rc, db)
              else
                let x := aclRuleValidateUpdateSamplepacket env modify present true false db
                if x.1 ≠ .success then x
                else
                  let y := aclRuleScanAndMod env p modify present x.2
                  if y.1 ≠ .success then y
                  else
                    -- from here on the rule is the updated one
                    match y.2.rules.get p with
                    | none => (.failure, y.2)
                    | some present =>
                      let z := aclRuleValidateUpdateSamplepacket env modify present false true y.2
                      if z.1 ≠ .success then z
                      else aclRulePolicerUpdate env p modify present z.2

/-- `sai_get_acl_rule` -/
def aclRuleGet (acl_id : Oid) (attr_list : List AclAttrBuf) (db : AclDb) : Status × List AclAttrBuf :=
  if acl_id.type ≠ .aclEntry then (.invalidObjectType, attr_list)
  else if attr_list = [] then (.invalidParameter, attr_list)
  else
    match aclRuleFind acl_id db with
    | none => (.invalidObjectId, attr_list)
    | some (_, rule) =>
      match db.table_tree rule.table_id with
      | none => (.failure, attr_list)
      | some table => aclGetAttrFromRule env table rule attr_list

/-! ## The system -/

inductive AclRuleOp where
  | create (attr_list : List AclAttr)
  | delete (acl_id : Oid)
  | set (acl_id : Oid) (attr : AclAttr)

structure AclRuleOpCall where
  env : AclEnv
  op : AclRuleOp

def aclRuleExec (c : AclRuleOpCall) (db : AclDb) : Status × AclDb :=
  match c.op with
  | .create attr_list => aclRuleCreate c.env attr_list db
  | .delete acl_id => aclRuleDelete c.env acl_id db
  | .set acl_id attr => aclRuleSet c.env acl_id attr db

def aclRuleStep (c : AclRuleOpCall) (db : AclDb) : AclDb := (aclRuleExec c db).2

end OpxSai
