import OpxSai.Hash.HashAgree
import OpxSai.Lib.Run
import OpxSai.Udf.UdfCases

/-!
# The UDF groups of hash objects

A hash object names UDF groups by their ids. The groups are checked when the list is set. A group that is
removed is asked only for its UDFs, and the answer is success whatever became of it.

* `hashStep_named`, `udfCreate_types` — what the calls of both modules do to lists and groups;
* `HashUdfOpFits`, `hashGroupsLive_of_run` — the condition, and that the property holds in every run under it.
-/

namespace OpxSai

open HashDb UdfDb
variable {f : HashObject → HashObject} {g : Oid} {hash_obj_id : Oid}

/-! ## Both modules -/

structure HashUdf where
  udf : UdfDb
  hash : HashDb

def HashUdf.initial : HashUdf := ⟨.initial, .initial⟩

inductive HashUdfOp where
  | groupCreate (env : UdfEnv) (attr_list : List UdfGroupAttr)
  | groupRemove (env : UdfEnv) (udf_group_id : Oid)
  | udfCreate (env : UdfEnv) (attr_list : List UdfAttr)
  | udfRemove (env : UdfEnv) (udf_id : Oid)
  | hash (op : HashOp)

/-- What a hash object asks about a group, the UDF module answers. -/
def HashEnv.asks (udf : UdfDb) (env : HashEnv) : HashEnv := { env with udf_group_hash := udfGroupHash udf }

def HashOp.asks (udf : UdfDb) : HashOp → HashOp
  | .create env attr_list => .create (env.asks udf) attr_list
  | .remove hash_obj_id => .remove hash_obj_id
  | .setAttr env hash_obj_id attr => .setAttr (env.asks udf) hash_obj_id attr
  | .switchSet env attr_id hash_obj_id => .switchSet (env.asks udf) attr_id hash_obj_id

def hashUdfStep (max_hash_index : Nat) : HashUdfOp → HashUdf → HashUdf
  | .groupCreate env attr_list, s => { s with udf := (udfGroupCreate env attr_list s.udf).2.2 }
  | .groupRemove env udf_group_id, s => { s with udf := (udfGroupRemove env udf_group_id s.udf).2 }
  | .udfCreate env attr_list, s => { s with udf := (udfCreate env attr_list s.udf).2.2 }
  | .udfRemove env udf_id, s => { s with udf := (udfRemove env udf_id s.udf).2 }
  | .hash op, s => { s with hash := hashStep max_hash_index (op.asks s.udf) s.hash }

/-! ## Property -/

def UdfDb.HashGroup (db : UdfDb) (udf_group_id : Oid) : Prop :=
  (db.groups udf_group_id).map UdfGroup.type = some .hash

variable {db' : UdfDb} {udf : UdfDb}

def HashDb.Names (db : HashDb) (udf_group_id : Oid) : Prop :=
  ∃ o obj, db.hash_objs o = some obj ∧ udf_group_id ∈ obj.udf_group_list

variable {x : Status × HashDb}

/-- A live group without UDFs that no hash object names. -/
def HashUdf.GroupUnused (s : HashUdf) (udf_group_id : Oid) : Prop :=
  (∃ group, s.udf.groups udf_group_id = some group ∧ group.udf_count = 0) ∧ ¬ s.hash.Names udf_group_id

/-- A remove is answered with success exactly where the group was live and unused and is gone. -/
def GroupRemoveRight (env : UdfEnv) (udf_group_id : Oid) (s : HashUdf) : Prop :=
  (udfGroupRemove env udf_group_id s.udf).1 = .success ↔
    s.GroupUnused udf_group_id ∧ (udfGroupRemove env udf_group_id s.udf).2.groups udf_group_id = none

/-- The condition on a remove: what has the type of a group is live and unused. -/
def GroupRemoveFits (udf_group_id : Oid) (s : HashUdf) : Prop :=
  udf_group_id.type = .udfGroup → s.GroupUnused udf_group_id

def NpuFreesGroup (env : UdfEnv) (udf_group_id : Oid) : Prop :=
  ∀ log, env.outside log (.groupRemove udf_group_id) = .success

/-- **The groups of hash objects are live**, in their lists and in what is given to the NPU for an attribute of
the switch; and a remove is right exactly under its condition. -/
structure HashGroupsLive (s : HashUdf) : Prop where
  named : ∀ g, s.hash.Names g → s.udf.HashGroup g
  applied : ∀ a, ∀ g ∈ (s.hash.fieldsOf a).udf_group_list, s.udf.HashGroup g
  removes : ∀ env g, NpuFreesGroup env g → (GroupRemoveRight env g s ↔ GroupRemoveFits g s)

/-- **The condition on a step.** -/
def HashUdfOpFits : HashUdfOp → HashUdf → Prop
  | .groupRemove env udf_group_id, s => NpuFreesGroup env udf_group_id ∧ GroupRemoveFits udf_group_id s
  | _, _ => True

/-! ## Hash objects -/

section Lists

variable {env : HashEnv} {db : HashDb} {P : Oid → Prop}

def NamesOnly (P : Oid → Prop) (db : HashDb) : Prop := ∀ g, db.Names g → P g

theorem NamesOnly.of_objs (h : NamesOnly P db) {db'} (hobjs : db'.hash_objs = db.hash_objs) :
    NamesOnly P db' := by
  rintro g ⟨o, obj, hobj, hmem⟩
  exact h g ⟨o, obj, hobjs ▸ hobj, hmem⟩

theorem NamesOnly.put (h : NamesOnly P db) (obj_id) (node)
    (hnode : ∀ obj, node = some obj → ∀ g ∈ obj.udf_group_list, P g) : NamesOnly P (db.putObj obj_id node) := by
  rintro g ⟨o, obj, hobj, hmem⟩
  by_cases heq : o = obj_id
  · exact hnode obj ((if_pos heq).symm.trans hobj) g hmem
  · exact h g ⟨o, obj, (if_neg heq).symm.trans hobj, hmem⟩

theorem NamesOnly.set (h : NamesOnly P db) (obj_id)
    (hf : ∀ obj, db.hash_objs obj_id = some obj → ∀ g ∈ (f obj).udf_group_list, P g) :
    NamesOnly P (db.setObj obj_id f) := by
  rintro g ⟨o, obj, hobj, hmem⟩
  by_cases heq : o = obj_id
  · obtain ⟨old, hold, rfl⟩ := Option.map_eq_some_iff.mp ((if_pos heq).symm.trans hobj)
    exact hf old (heq ▸ hold) g hmem
  · exact h g ⟨o, obj, (if_neg heq).symm.trans hobj, hmem⟩

/-- A list is validated before it is stored. -/
theorem hashAttrSet_named (hP : ∀ g, g.type = .udfGroup → env.udf_group_hash g = true → P g)
    (attr_list) : ∀ (attr_idx : Nat) (obj : HashObject), (∀ g ∈ obj.udf_group_list, P g) →
      ∀ g ∈ (hashAttrSet env attr_idx attr_list obj).2.udf_group_list, P g := by
  induction attr_list with
  | nil => exact fun _ _ h => h
  | cons attr attr_list ih =>
    intro attr_idx obj h
    have hstore : ∀ g ∈ (hashAttrStore env obj attr).2.udf_group_list, P g := by
      cases attr with
      | nativeHashFieldList s32list =>
        simp only [hashAttrStore, hashNativeFieldListSet]
        split <;> exact h
      | udfGroupList objlist =>
        simp only [hashAttrStore, hashUdfGroupListSet]
        split
        · exact h
        rename_i hvalid
        split
        · exact h
        intro g hmem
        have hall : hashUdfGroupListValidate env objlist = true := by
          rw [← Bool.not_eq_false]
          exact fun hbad => hvalid ⟨List.ne_nil_of_mem hmem, hbad⟩
        have hone := List.all_eq_true.mp hall g hmem
        rw [Bool.and_eq_true, beq_iff_eq] at hone
        exact hP g hone.1 hone.2
      | unknown id => exact h
    simp only [hashAttrSet]
    split
    · exact hstore
    · exact ih _ _ hstore

theorem hashFieldsReset_only (env) (obj_id) (fields)
    (attrs) :
    ∀ db, OnlyFields db (hashFieldsReset env obj_id fields attrs db) := by
  induction attrs with
  | nil => exact fun db => .refl db
  | cons a attrs ih =>
    intro db
    simp only [hashFieldsReset]
    split
    · exact (OnlyFields.call ..).trans (ih _)
    · exact ih _

theorem hashObjSetInHw_only (env) (obj_id) (obj) (attr) (db) :
    OnlyFields db (hashObjSetInHw env obj_id obj attr db).2 := by
  unfold hashObjSetInHw
  split
  · exact .refl db
  rename_i fields _
  have hspec := (hashFieldsApply_spec env obj_id fields SwitchHashAttr.all env.unset_status db).only
  dsimp only
  split
  · exact hspec
  dsimp only
  split
  · exact hspec.trans (hashFieldsReset_only ..)
  · exact hspec

theorem hashGroup_of_validated (hg : udfGroupHash udf g = true) : udf.HashGroup g := by
  obtain ⟨-, group, hgroup, htype⟩ := of_decide_eq_true hg
  show (udf.groups g).map UdfGroup.type = some .hash
  rw [Option.mem_def.mp hgroup]
  exact congrArg some htype

variable {max_hash_index : Nat} (hP : ∀ g, g.type = .udfGroup → env.udf_group_hash g = true → P g)
  (h : NamesOnly P db)

include hP h

theorem hashObjCreate_named {attr_list} {x}
    (hx : hashObjCreate max_hash_index env attr_list db = some x) : NamesOnly P x.2.2 := by
  unfold hashObjCreate at hx
  have hchoose : (hashObjChoose max_hash_index env attr_list db).2.hash_objs = db.hash_objs := by
    unfold hashObjChoose
    split
    · rfl
    split
    · rfl
    · dsimp only
      split <;> rfl
  split at hx
  next rc db₁ heq =>
    cases hx
    rw [heq] at hchoose
    exact h.of_objs hchoose
  rename_i hash_index db₁ heq
  rw [heq] at hchoose
  have h₁ : NamesOnly P db₁ := h.of_objs hchoose
  split at hx
  · cases hx
  have hfill : NamesOnly P (hashObjFill env attr_list hash_index db₁).2 := by
    have hset := hashAttrSet_named hP attr_list 0 .zero fun g hg => absurd hg List.not_mem_nil
    simp only [hashObjFill]
    split
    · exact h₁
    split
    · exact h₁
    · exact (h₁.of_objs rfl).put _ _ fun obj hobj => Option.some.inj hobj ▸ hset
  dsimp only at hx
  split at hx
  · cases hx
    exact hfill
  · cases hx
    exact hfill.of_objs rfl

theorem hashObjSetAttr_named {attr} (hx : hashObjSetAttr env hash_obj_id attr db = some x) :
    NamesOnly P x.2 := by
  unfold hashObjSetAttr at hx
  split at hx
  · cases hx
    exact h
  split at hx
  · cases hx
    exact h
  split at hx
  · cases hx
  split at hx
  · cases hx
    exact h
  rename_i obj hobj
  split at hx
  · cases hx
    exact h.of_objs rfl
  have hset : NamesOnly P (if obj.ref_count > 0 then hashObjSetInHw env hash_obj_id obj attr db
      else (.success, db)).2 := by
    split
    · exact h.of_objs (hashObjSetInHw_only ..).objs
    · exact h
  dsimp only at hx
  generalize (if obj.ref_count > 0 then hashObjSetInHw env hash_obj_id obj attr db else (.success, db)) = set
    at hx hset
  split at hx
  · cases hx
    exact hset
  cases hx
  refine hset.set _ fun _ _ => ?_
  exact hashAttrSet_named hP _ 0 obj fun g hg => h g ⟨hash_obj_id, obj, hobj, hg⟩

omit hP

theorem hashObjRemove_named (hx : hashObjRemove hash_obj_id db = some x) : NamesOnly P x.2 := by
  unfold hashObjRemove at hx
  repeat' split at hx
  all_goals cases hx
  · exact h
  · exact h
  · exact h
  · exact (h.put hash_obj_id none nofun).of_objs rfl

theorem NamesOnly.count (obj_id) (hf : ∀ obj, (f obj).udf_group_list = obj.udf_group_list) :
    NamesOnly P (db.setObj obj_id f) :=
  h.set obj_id fun obj hobj g hg => h g ⟨obj_id, obj, hobj, hf obj ▸ hg⟩

theorem switchHashAttrSet_named {attr_id}
    (hx : switchHashAttrSet env attr_id hash_obj_id db = some x) : NamesOnly P x.2 := by
  unfold switchHashAttrSet at hx
  split at hx
  · cases hx
  split at hx
  · cases hx
    exact h.of_objs rfl
  split at hx
  · cases hx
    exact h
  dsimp only at hx
  generalize (if hash_obj_id ≠ .null then
    (db.hash_objs hash_obj_id).elim HashFields.empty HashObject.toHashFields else .empty) = fields at hx
  have hcalled := h.of_objs (OnlyFields.call db env (.switchHashFieldsSet attr_id fields false)).objs
  generalize db.call _ _ = set at hx hcalled
  split at hx
  · cases hx
    exact hcalled
  cases hx
  have hpoint : ∀ new, NamesOnly P ((switchHashObjLeave attr_id set.2).setHashObj attr_id new) := by
    intro new
    refine NamesOnly.of_objs ?_ rfl
    unfold switchHashObjLeave
    split
    · exact hcalled
    · exact hcalled.count _ fun _ => rfl
  dsimp only
  split
  · exact (hpoint _).count _ fun _ => rfl
  · exact hpoint _

omit h

theorem hashStep_named (op : HashOp) (h : NamesOnly udf.HashGroup db) :
    NamesOnly udf.HashGroup (hashStep max_hash_index (op.asks udf) db) := by
  unfold hashStep
  cases hexec : hashExec max_hash_index (op.asks udf) db with
  | none => exact h
  | some x =>
    cases op with
    | create env attr_list =>
      obtain ⟨made, hmade, rfl⟩ := Option.map_eq_some_iff.mp hexec
      exact hashObjCreate_named (fun _ _ => hashGroup_of_validated) h hmade
    | remove hash_obj_id => exact hashObjRemove_named h hexec
    | setAttr env hash_obj_id attr => exact hashObjSetAttr_named (fun _ _ => hashGroup_of_validated) h hexec
    | switchSet env attr_id hash_obj_id => exact switchHashAttrSet_named h hexec

end Lists

/-! ## Groups -/

section Groups

variable {env : UdfEnv} {db : UdfDb}

def GroupTypesSame (db db' : UdfDb) : Prop :=
  ∀ g, (db'.groups g).map UdfGroup.type = (db.groups g).map UdfGroup.type

theorem GroupTypesSame.of_groups (h : db'.groups = db.groups) : GroupTypesSame db db' :=
  fun g => by rw [h]

theorem GroupTypesSame.modGroup (db) (udf_group_id) {f : UdfGroup → UdfGroup}
    (hf : ∀ group, (f group).type = group.type) (h : db'.groups = (db.modGroup udf_group_id f).groups) :
    GroupTypesSame db db' := by
  intro g
  rw [h]
  show (if g = udf_group_id then (db.groups g).map f else db.groups g).map UdfGroup.type = _
  split
  · rw [Option.map_map]
    exact congrArg (fun k => (db.groups g).map k) (funext hf)
  · rfl

theorem udfCreate_types {attr_list} : GroupTypesSame db (udfCreate env attr_list db).2.2 := by
  have hx := udfCreate_does env db attr_list
  generalize udfCreate _ _ _ = x at hx
  cases hx with
  | refused _ same => exact .of_groups same.groups
  | lost same => exact .of_groups same.groups
  | created _ _ _ _ _ same =>
    exact .modGroup db _ (f := udfGroupListAdd (uoidCreate .udf env.hw_id)) (fun _ => rfl) same.groups

theorem udfRemove_types {udf_id} : GroupTypesSame db (udfRemove env udf_id db).2 := by
  have hx := udfRemove_does env db udf_id
  generalize udfRemove _ _ _ = x at hx
  cases hx with
  | refused => exact .of_groups rfl
  | kept _ _ _ _ same => exact same.elim (fun same => .of_groups same.groups) fun same => .of_groups same.groups
  | gone _ _ same => exact .modGroup db _ (f := udfGroupListRemove udf_id) (fun _ => rfl) same.groups

end Groups

/-! ## Runs -/

/-- Lists name live groups for hashing, and the id of a live group has its type. -/
structure HashUdfInv (s : HashUdf) : Prop where
  named : NamesOnly s.udf.HashGroup s.hash
  typed : ∀ g, (s.udf.groups g).isSome = true → g.type = .udfGroup

section Runs

variable {max_hash_index : Nat} {s : HashUdf}

theorem HashUdfInv.types (h : HashUdfInv s) (hsame : GroupTypesSame s.udf udf) :
    HashUdfInv { s with udf := udf } := by
  refine ⟨fun g hg => (hsame g).trans (h.named g hg), fun g hg => h.typed g ?_⟩
  have hsome := congrArg Option.isSome (hsame g)
  rw [Option.isSome_map, Option.isSome_map] at hsome
  exact hsome.symm.trans hg

theorem hashUdfStep_inv {op} (h : HashUdfInv s) (hfits : HashUdfOpFits op s) :
    HashUdfInv (hashUdfStep max_hash_index op s) := by
  cases op with
  | groupCreate env attr_list =>
    have hx := udfGroupCreate_does env s.udf attr_list
    show HashUdfInv { s with udf := (udfGroupCreate env attr_list s.udf).2.2 }
    generalize udfGroupCreate _ _ _ = x at hx
    cases hx with
    | refused _ same => exact h.types (.of_groups same.groups)
    | lost same => exact h.types (.of_groups same.groups)
    | created fresh same =>
      refine ⟨fun g hg => ?_, fun g hg => ?_⟩
      · have hlive : s.udf.HashGroup g := h.named g hg
        show Option.map _ (UdfDb.groups _ g) = _
        rw [same.groups]
        refine (congrArg (Option.map UdfGroup.type) (if_neg fun heq => ?_)).trans hlive
        rw [heq, UdfDb.HashGroup, fresh] at hlive
        cases hlive
      · rw [same.groups] at hg
        change (if g = _ then _ else s.udf.groups g).isSome = true at hg
        split at hg
        next heq =>
          rw [heq]
          rfl
        · exact h.typed g hg
  | groupRemove env udf_group_id =>
    have hx := udfGroupRemove_does env s.udf udf_group_id
    show HashUdfInv { s with udf := (udfGroupRemove env udf_group_id s.udf).2 }
    generalize udfGroupRemove _ _ _ = x at hx
    cases hx with
    | refused => exact h
    | ignored => exact h
    | kept _ _ npu => exact npu.elim fun log hbad => absurd (hfits.1 log) hbad
    | gone type _ _ same =>
      have hunnamed := (hfits.2 type).2
      refine ⟨fun g hg => ?_, fun g hg => ?_⟩
      · show Option.map _ (UdfDb.groups _ g) = _
        rw [same.groups]
        refine (congrArg (Option.map UdfGroup.type) (if_neg fun heq => hunnamed ?_)).trans (h.named g hg)
        rw [← heq]
        exact hg
      · rw [same.groups] at hg
        change (if g = udf_group_id then none else s.udf.groups g).isSome = true at hg
        split at hg
        · cases hg
        · exact h.typed g hg
  | udfCreate env attr_list => exact h.types udfCreate_types
  | udfRemove env udf_id => exact h.types udfRemove_types
  | hash op => exact ⟨hashStep_named op h.named, h.typed⟩

theorem HashUdfInv.removes (h : HashUdfInv s) {env} (hnpu : NpuFreesGroup env g) :
    GroupRemoveRight env g s ↔ GroupRemoveFits g s := by
  have hx := udfGroupRemove_does env s.udf g
  unfold GroupRemoveRight
  generalize udfGroupRemove _ g _ = x at hx
  cases hx with
  | refused type =>
    refine iff_of_true (iff_of_false (by simp) fun hright => type ?_) fun heq => absurd heq type
    obtain ⟨group, hgroup, -⟩ := hright.1.1
    exact h.typed g (by rw [hgroup]; rfl)
  | ignored type used => exact iff_of_false (fun hright => used (hright.mp rfl).1.1) fun hfits => used (hfits type).1
  | kept _ _ npu => exact npu.elim fun log hbad => absurd (hnpu log) hbad
  | gone type _ _ same =>
    refine ⟨fun hright _ => (hright.mp rfl).1, fun hfits => iff_of_true rfl ⟨hfits type, ?_⟩⟩
    rw [same.groups]
    exact if_pos rfl

theorem HashUdfInv.live (h : HashUdfInv s) : HashGroupsLive s where
  named := h.named
  applied := by
    intro a g hg
    unfold HashDb.fieldsOf at hg
    cases hobj : (s.hash.hash_obj_types a).bind s.hash.hash_objs with
    | none =>
      rw [hobj] at hg
      exact absurd hg List.not_mem_nil
    | some obj =>
      rw [hobj] at hg
      obtain ⟨o, -, ho⟩ := Option.bind_eq_some_iff.mp hobj
      exact h.named g ⟨o, obj, ho, hg⟩
  removes := fun _ _ hnpu => h.removes hnpu

/-- **The groups of hash objects are live** in every run that meets the condition. -/
theorem hashGroupsLive_of_run (hrun : Run (hashUdfStep max_hash_index) HashUdfOpFits .initial s) :
    HashGroupsLive s := by
  refine HashUdfInv.live (hrun.induct (P := HashUdfInv) (fun op _ h hfits => hashUdfStep_inv h hfits) ?_)
  refine ⟨?_, nofun⟩
  rintro g ⟨o, obj, hobj, -⟩
  cases hobj

end Runs

def hashUdfGroups : HashUdf :=
  hashUdfStep 1 (.groupCreate (.good 8) [.type .hash, .length 2])
    (hashUdfStep 1 (.groupCreate (.good 7) [.type .hash, .length 2]) .initial)

def hashUdfName : HashUdfOp := .hash (.create .good [.udfGroupList [⟨.udfGroup, 7⟩]])

theorem hashGroupsLive_of_run_named :
    HashGroupsLive (hashUdfStep 1 hashUdfName (hashUdfStep 1 (.groupRemove (.good 0) ⟨.udfGroup, 8⟩) hashUdfGroups)) :=
  hashGroupsLive_of_run ((((Run.nil HashUdf.initial).snoc _ (by trivial)).snoc _ (by trivial)).snoc
    (.groupRemove (.good 0) ⟨.udfGroup, 8⟩)
    ⟨fun _ => rfl, fun _ => ⟨⟨_, rfl, rfl⟩, fun ⟨_, _, hobj, _⟩ => nomatch hobj⟩⟩ |>.snoc hashUdfName (by trivial))

def HashUdfAllSucceed : HashUdfOp → HashUdf → Prop
  | .groupCreate env _, _ | .groupRemove env _, _ | .udfCreate env _, _ | .udfRemove env _, _ =>
    ∀ log c, env.outside log c = .success
  | .hash (.create env _), _ | .hash (.setAttr env _ _), _ | .hash (.switchSet env _ _), _ =>
    ∀ log c, env.outside log c = .success
  | .hash (.remove _), _ => True

/-- **A group is removed under a hash object** that names it. -/
theorem not_hashGroupsLive : ¬ ∀ s, Run (hashUdfStep 1) HashUdfAllSucceed .initial s →
    ∀ g, s.hash.Names g → s.udf.HashGroup g := by
  intro h
  have hrun : Run (hashUdfStep 1) HashUdfAllSucceed .initial
      (hashUdfStep 1 (.groupRemove (.good 0) ⟨.udfGroup, 7⟩) (hashUdfStep 1 hashUdfName hashUdfGroups)) :=
    (((Run.nil HashUdf.initial).snoc _ (fun _ _ => rfl)).snoc _ (fun _ _ => rfl)).snoc hashUdfName
      (by exact fun _ _ => rfl) |>.snoc _ (fun _ _ => rfl)
  have hlive := h _ hrun ⟨.udfGroup, 7⟩ ⟨⟨.hash, 0⟩, _, rfl, List.mem_singleton.mpr rfl⟩
  exact absurd hlive (by simp [UdfDb.HashGroup, hashUdfStep, udfGroupRemove]; decide)

end OpxSai
