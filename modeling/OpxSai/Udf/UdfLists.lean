import OpxSai.Lib.Fibres
import OpxSai.Lib.Run
import OpxSai.Udf.UdfCases

/-!
# UDFs, their groups and the NPU

The list of a group has the UDFs of the tree that point to it. A refusal by a tree goes unnoticed, and a mask
is written into the node of its UDF before the NPU is asked.

* `udfsRight_of_run`, `not_udfsRight` — runs, and a mask that the NPU refuses.
-/

namespace OpxSai

open UdfDb
variable {id : Oid} {group : UdfGroup} {env : UdfEnv}

/-! ## Property -/

inductive UdfOp where
  | groupCreate (env : UdfEnv) (attr_list : List UdfGroupAttr)
  | groupRemove (env : UdfEnv) (udf_group_id : Oid)
  | udfCreate (env : UdfEnv) (attr_list : List UdfAttr)
  | udfRemove (env : UdfEnv) (udf_id : Oid)
  | udfSet (env : UdfEnv) (udf_id : Oid) (attr : UdfAttr)

def udfStep : UdfOp → UdfDb → UdfDb
  | .groupCreate env attr_list, db => (udfGroupCreate env attr_list db).2.2
  | .groupRemove env udf_group_id, db => (udfGroupRemove env udf_group_id db).2
  | .udfCreate env attr_list, db => (udfCreate env attr_list db).2.2
  | .udfRemove env udf_id, db => (udfRemove env udf_id db).2
  | .udfSet env udf_id attr, db => (udfSetAttribute env udf_id attr db).2

/-- In a group for hashing, a mask has one byte for each byte of the length. -/
def UdfMaskFits (group : UdfGroup) (udf : Udf) : Prop :=
  group.type = .hash → udf.hash_mask.map List.length = some group.length

def UdfMaskOf (group : UdfGroup) (bytes : List UInt8) : Prop :=
  group.type = .hash ∧ bytes ≠ [] ∧ group.length = bytes.length

def UdfDb.listOf (db : UdfDb) (udf_group_id : Oid) : List Oid := (db.groups udf_group_id).elim [] UdfGroup.udf_list

variable {db db' : UdfDb}

/-- **UDFs, groups and NPU agree.** -/
structure UdfsAgree (db : UdfDb) : Prop where
  lists : Fibres db.listOf fun u => (db.udfs u).map Udf.p_udf_group
  npu : ∀ u, db.npu_udfs u = (db.udfs u).isSome
  counts : ∀ g group, db.groups g = some group → group.udf_count = group.udf_list.length
  masks : ∀ u udf, db.udfs u = some udf → ∃ group, db.groups udf.p_udf_group = some group ∧ UdfMaskFits group udf

/-- A create succeeds where its object is new and live, and leaves nothing otherwise. -/
def UdfCreateRight {A : Type} (tree : UdfDb → Oid → Option A) (npu : UdfDb → Oid → Bool) (db : UdfDb)
    (x : Status × Oid × UdfDb) : Prop :=
  (x.1 = .success ↔ tree db x.2.1 = none ∧ (tree x.2.2 x.2.1).isSome = true ∧ npu x.2.2 x.2.1 = true) ∧
    (x.1 ≠ .success → UdfSame db x.2.2)

/-- **A call is right**: a create is, and a set that fails changes nothing. -/
def UdfCallRight : UdfOp → UdfDb → Prop
  | .groupCreate env attr_list, db => UdfCreateRight UdfDb.groups UdfDb.npu_groups db (udfGroupCreate env attr_list db)
  | .udfCreate env attr_list, db => UdfCreateRight UdfDb.udfs UdfDb.npu_udfs db (udfCreate env attr_list db)
  | .udfSet env udf_id attr, db =>
    (udfSetAttribute env udf_id attr db).1 ≠ .success → UdfSame db (udfSetAttribute env udf_id attr db).2
  | _, _ => True

def UdfCreateFits (env : UdfEnv) (made insert : UdfCall) (old : Bool) : Prop :=
  ∀ log, env.outside log made = .success → env.outside (env.outside.log made log) insert = .success ∧ old = false

/-- A set that gets to the NPU with a mask other than that of the node. -/
structure UdfMaskWrite (env : UdfEnv) (udf_id : Oid) (attr : UdfAttr) (udf : Udf) (db : UdfDb) : Prop where
  type : udf_id.type = .udf
  valid : env.set_validate attr = .success
  get : db.udfs udf_id = some udf
  mask : ∃ bytes, attr = .hashMask (some bytes) ∧ UdfMaskOf (db.groupOf udf) bytes ∧ udf.hash_mask ≠ some bytes

/-- **The condition on a step.** -/
def UdfOpFits : UdfOp → UdfDb → Prop
  | .groupCreate env _, db =>
    let id := uoidCreate .udfGroup env.hw_id
    UdfCreateFits env (.groupCreate id) (.groupInsert id) (db.groups id).isSome
  | .groupRemove _ _, _ => True
  | .udfCreate env _, db =>
    let id := uoidCreate .udf env.hw_id
    UdfCreateFits env (.udfCreate id) (.udfInsert id) (db.udfs id).isSome
  | .udfRemove env udf_id, db => udf_id.type = .udf → (db.udfs udf_id).isSome = true →
    env.outside db.outside_log (.udfRemove udf_id) = .success ∨
      env.outside (env.outside.log (.udfRemove udf_id) db.outside_log) (.udfInsert udf_id) = .success
  | .udfSet env udf_id attr, db => ∀ udf, UdfMaskWrite env udf_id attr udf db →
    env.outside db.outside_log (.udfAttributeSet udf_id attr) = .success

/-! ## Attributes -/

section Attrs

variable {udf : Udf} {attr : UdfAttr} {attr_list : List UdfAttr}

theorem udfAttrStore_live (hok : (udfAttrStore db udf attr).1 = .success)
    (h : attr.isGroup = true ∨ (db.groups udf.p_udf_group).isSome = true) :
    (db.groups (udfAttrStore db udf attr).2.p_udf_group).isSome = true := by
  unfold udfAttrStore at hok ⊢
  repeat' split at hok
  all_goals simp_all [UdfAttr.isGroup, Option.isSome_iff_ne_none]

theorem udfAttrWalk_live (db) (attr_list) : ∀ attr_idx udf mask,
    (udfAttrWalk db attr_idx attr_list udf mask).1 = .success →
      attr_list.any UdfAttr.isGroup = true ∨ (db.groups udf.p_udf_group).isSome = true →
      (db.groups (udfAttrWalk db attr_idx attr_list udf mask).2.1.p_udf_group).isSome = true := by
  induction attr_list with
  | nil => exact fun _ _ _ _ h => h.resolve_left nofun
  | cons attr attr_list ih =>
    intro attr_idx udf mask
    simp only [udfAttrWalk]
    split
    next hbad => exact fun hok => absurd hok (getIndexedRetVal_ne_success hbad)
    rename_i hok
    refine fun hall h => ih (attr_idx + 1) (udfAttrStore db udf attr).2 _ hall ?_
    rw [List.any_cons, Bool.or_eq_true, or_assoc, or_left_comm] at h
    exact h.imp_right (udfAttrStore_live (not_not.mp hok))

/-- **A mask is set** on a UDF of a group that it is for, or nothing is done. -/
theorem udfHashMaskSet_does {udf} {u8list} :
    let x := udfHashMaskSet env udf u8list db
    (UdfMaskFits (db.groupOf udf) udf → x.2.2 = db) ∧ x.2.1.p_udf_group = udf.p_udf_group ∧
    (x.1 ≠ .success ∧ x.2.1.hash_mask = udf.hash_mask ∨ x.1 = .success ∧ ∃ bytes, u8list = some bytes ∧
      UdfMaskOf (db.groupOf udf) bytes ∧ x.2.1.hash_mask = some bytes) := by
  unfold udfHashMaskSet
  dsimp only
  repeat' split
  all_goals simp_all [UdfMaskFits, UdfMaskOf]

theorem UdfMaskOf.fits {bytes} (h : UdfMaskOf group bytes) (hmask : udf.hash_mask = some bytes) :
    UdfMaskFits group udf := by
  intro _
  rw [hmask, h.2.2]
  rfl

theorem udfDefaultHashMaskFill_fits (hset : (udfDefaultHashMaskFill env udf db).1 = .success) :
    (udfDefaultHashMaskFill env udf db).2.1.p_udf_group = udf.p_udf_group ∧
      UdfMaskFits (db.groupOf udf) (udfDefaultHashMaskFill env udf db).2.1 := by
  unfold udfDefaultHashMaskFill at hset ⊢
  dsimp only at hset ⊢
  repeat' split at hset
  all_goals simp_all [UdfMaskFits]

theorem UdfDb.groupOf_eq (h : db.groups udf.p_udf_group = some group) : db.groupOf udf = group := by
  rw [UdfDb.groupOf, h]
  rfl

theorem UdfDb.listOf_eq (h : db.groups id = some group) :
    db.listOf id = group.udf_list := by
  rw [UdfDb.listOf, h]
  rfl

/-- **Attributes that are all stored** make a UDF of a live group, with a mask that fits. -/
theorem udfAttrSet_fits (hset : (udfAttrSet env true attr_list .zero db).1 = .success)
    (hlive : attr_list.any UdfAttr.isGroup = true) :
    ∃ group, db.groups (udfAttrSet env true attr_list .zero db).2.1.p_udf_group = some group ∧
      UdfMaskFits group (udfAttrSet env true attr_list .zero db).2.1 := by
  have hwalk := udfAttrWalk_live db attr_list 0 .zero none
  unfold udfAttrSet at hset ⊢
  generalize udfAttrWalk _ 0 _ _ _ = walked at *
  dsimp only at hset ⊢
  split at hset
  next hbad => exact absurd hset hbad
  rename_i hok
  obtain ⟨group, hgroup⟩ := Option.isSome_iff_exists.mp (hwalk (not_not.mp hok) (.inl hlive))
  suffices h : ∀ new : Udf, new.p_udf_group = walked.2.1.p_udf_group ∧ UdfMaskFits (db.groupOf walked.2.1) new →
      ∃ group, db.groups new.p_udf_group = some group ∧ UdfMaskFits group new by
    rw [if_neg hok]
    split at hset
    · obtain ⟨-, hp, ⟨hbad, -⟩ | ⟨-, bytes, -, hof, hnew⟩⟩ := udfHashMaskSet_does
      · exact absurd hset (getIndexedRetVal_ne_success hbad)
      · exact h _ ⟨hp, hof.fits hnew⟩
    · exact h _ (udfDefaultHashMaskFill_fits hset)
  rintro new ⟨hp, hfits⟩
  exact ⟨group, hp ▸ hgroup, groupOf_eq hgroup ▸ hfits⟩

/-- **One attribute is set** on the copy of a UDF: its mask is as it was, or new. -/
theorem udfAttrSet_mask (hfits : UdfMaskFits (db.groupOf udf) udf) (hattr : attr.settable = true) :
    let x := udfAttrSet env false [attr] udf db
    x.2.2 = db ∧ x.2.1.p_udf_group = udf.p_udf_group ∧ (x.2.1.hash_mask = udf.hash_mask ∨
      x.1 = .success ∧ ∃ bytes, attr = .hashMask (some bytes) ∧ UdfMaskOf (db.groupOf udf) bytes ∧
        x.2.1.hash_mask = some bytes) := by
  cases attr with
  | base s32 => cases s32 <;> exact ⟨rfl, rfl, .inl rfl⟩
  | offset u16 => exact ⟨rfl, rfl, .inl rfl⟩
  | hashMask u8list =>
    obtain ⟨hdb, hp, ⟨-, hold⟩ | ⟨hok, hnew⟩⟩ := udfHashMaskSet_does
    · exact ⟨hdb hfits, hp, .inl hold⟩
    · obtain ⟨bytes, rfl, hof, hnew⟩ := hnew
      exact ⟨hdb hfits, hp, .inr ⟨congrArg (getIndexedRetVal · 0) hok, bytes, rfl, hof, hnew⟩⟩
  | _ => cases hattr

end Attrs

/-! ## Steps -/

namespace UdfsAgree

theorem congr (h : UdfsAgree db) (hgroups : db'.groups = db.groups) (hudfs : db'.udfs = db.udfs)
    (hnpu : db'.npu_udfs = db.npu_udfs) : UdfsAgree db' := by
  obtain ⟨groups, udfs, npu_groups, npu_udfs, outside_log⟩ := db'
  cases hgroups
  cases hudfs
  cases hnpu
  exact ⟨h.lists, h.npu, h.counts, h.masks⟩

theorem of_same (h : UdfsAgree db) (same : UdfSame db db') : UdfsAgree db' :=
  h.congr same.groups same.udfs same.npu_udfs

theorem putGroup (h : UdfsAgree db) (hlist : db.listOf id = []) (new)
    (hnew : ∀ group ∈ new, group.udf_list = [] ∧ group.udf_count = 0) : UdfsAgree (db.putGroup id new) := by
  refine ⟨?_, h.npu, fun g group hget => ?_, fun u udf hget => ?_⟩
  · have hlists : (db.putGroup id new).listOf = db.listOf := by
      funext g
      unfold UdfDb.listOf UdfDb.putGroup
      dsimp only
      split
      next hg =>
        cases new with
        | none => exact (hg ▸ hlist).symm
        | some group => exact (hnew group rfl).1.trans (hg ▸ hlist).symm
      · rfl
    rw [hlists]
    exact h.lists
  · change (if g = id then new else db.groups g) = some group at hget
    split at hget
    · obtain ⟨hempty, hzero⟩ := hnew group hget
      rw [hempty, hzero]
      rfl
    · exact h.counts g _ hget
  · obtain ⟨group, hgroup, hmask⟩ := h.masks u udf hget
    refine ⟨group, (if_neg fun heq => ?_).trans hgroup, hmask⟩
    have hmem := (h.lists.mem _ u).mpr (congrArg (Option.map Udf.p_udf_group) hget)
    rw [heq, hlist] at hmem
    cases hmem

theorem putUdf (h : UdfsAgree db) {p} (hgroup : db.groups p = some group) {new}
    {f : UdfGroup → UdfGroup} {l : List Oid → List Oid} (hf : (f group).type = group.type ∧
      (f group).length = group.length ∧ (f group).udf_count = (f group).udf_list.length ∧
      (f group).udf_list = l group.udf_list)
    (hlists : Fibres (fun g => if g = p then l (db.listOf g) else db.listOf g)
      fun u => if u = id then new.map Udf.p_udf_group else (db.udfs u).map Udf.p_udf_group)
    (hmask : ∀ udf ∈ new, udf.p_udf_group = p ∧ UdfMaskFits group udf)
    (hgroups : db'.groups = (db.modGroup p f).groups) (hudfs : db'.udfs = (db.putUdf id new).udfs)
    (hnpu : ∀ u, db'.npu_udfs u = if u = id then new.isSome else db.npu_udfs u) : UdfsAgree db' := by
  have hget : ∀ g, db'.groups g = if g = p then some (f group) else db.groups g := by
    intro g
    rw [hgroups]
    unfold UdfDb.modGroup
    dsimp only
    split
    next hg =>
      rw [hg, hgroup]
      rfl
    · rfl
  have hudf : ∀ u, db'.udfs u = if u = id then new else db.udfs u := fun u => congrFun hudfs u
  refine ⟨?_, fun u => ?_, fun g group' hg => ?_, fun u udf hu => ?_⟩
  · convert hlists using 1
    · funext g
      rw [UdfDb.listOf, hget]
      split
      next hg =>
        rw [hg, listOf_eq hgroup]
        exact hf.2.2.2
      · rfl
    · funext u
      rw [hudf]
      split <;> rfl
  · rw [hnpu, hudf, h.npu]
    split <;> rfl
  · rw [hget] at hg
    split at hg
    · exact Option.some.inj hg ▸ hf.2.2.1
    · exact h.counts g _ hg
  · rw [hudf] at hu
    have hfits : ∃ group', db.groups udf.p_udf_group = some group' ∧ UdfMaskFits group' udf := by
      split at hu
      · exact ⟨group, (hmask udf hu).1 ▸ hgroup, (hmask udf hu).2⟩
      · exact h.masks u udf hu
    obtain ⟨group', hgroup', hfits⟩ := hfits
    rw [hget]
    split
    next hp =>
      rw [hp, hgroup] at hgroup'
      cases hgroup'
      exact ⟨f group, rfl, fun htype => hf.2.1 ▸ hfits (hf.1 ▸ htype)⟩
    · exact ⟨group', hgroup', hfits⟩

end UdfsAgree

theorem UdfDb.putUdf_self {udf} (h : db.udfs id = some udf) :
    db.putUdf id (some udf) = db := by
  obtain ⟨groups, udfs, npu_groups, npu_udfs, outside_log⟩ := db
  simp only [UdfDb.putUdf, UdfDb.mk.injEq, true_and, and_true]
  funext o
  split
  next ho => exact (ho ▸ h).symm
  · rfl

/-- **All that a set can do** under its condition: nothing, or it sets the UDF. -/
theorem udfSetAttribute_does (h : UdfsAgree db) {udf_id} {attr}
    (hfits : UdfOpFits (.udfSet env udf_id attr) db) :
    ((udfSetAttribute env udf_id attr db).1 ≠ .success ∧ UdfSame db (udfSetAttribute env udf_id attr db).2) ∨
    ((udfSetAttribute env udf_id attr db).1 = .success ∧ ∃ udf new, db.udfs udf_id = some udf ∧
      new.p_udf_group = udf.p_udf_group ∧ UdfMaskFits (db.groupOf udf) new ∧
      UdfSame (db.putUdf udf_id (some new)) (udfSetAttribute env udf_id attr db).2) := by
  unfold udfSetAttribute
  split
  · exact .inl ⟨by simp, .refl db⟩
  rename_i htype
  split
  next hbad => exact .inl ⟨hbad, .refl db⟩
  rename_i hvalid
  cases hget : db.udfs udf_id with
  | none => exact .inl ⟨by simp, .refl db⟩
  | some udf =>
    obtain ⟨group, hgroup, hmask⟩ := h.masks _ udf hget
    rw [← groupOf_eq hgroup] at hmask
    obtain ⟨hdb, hp, hnew⟩ := udfAttrSet_mask hmask (env.set_checks _ (not_not.mp hvalid))
    dsimp only
    generalize udfAttrSet _ _ _ _ _ = set at hdb hp hnew ⊢
    rw [hdb]
    generalize hshared : (if udf.hash_mask.isSome = true then
      db.putUdf udf_id (some { udf with hash_mask := set.2.1.hash_mask }) else db) = shared
    have hlog : shared.outside_log = db.outside_log := by
      rw [← hshared]
      split <;> rfl
    have hput : ∀ new, shared.putUdf udf_id new = db.putUdf udf_id new := by
      intro new
      rw [← hshared]
      split
      · exact putUdf_putUdf ..
      · rfl
    have hkept : set.2.1.hash_mask = udf.hash_mask → shared = db := by
      intro heq
      rw [← hshared, heq]
      split
      · exact putUdf_self hget
      · rfl
    split
    next hbad =>
      rw [hkept (hnew.resolve_right fun hok => hbad hok.1)]
      exact .inl ⟨hbad, .refl db⟩
    split
    next hnpu =>
      refine .inl ⟨hnpu, ?_⟩
      -- the NPU takes a mask that is not the one of the node
      by_cases heq : set.2.1.hash_mask = udf.hash_mask
      · rw [hkept heq]
        exact .of_call db env rfl
      obtain ⟨-, bytes, hattr, hof, hbytes⟩ := hnew.resolve_left heq
      refine absurd ?_ hnpu
      show env.outside shared.outside_log _ = .success
      rw [hlog]
      exact hfits udf ⟨not_not.mp htype, not_not.mp hvalid, hget, bytes, hattr, hof,
        fun hold => heq (hbytes.trans hold.symm)⟩
    · refine .inr ⟨rfl, udf, set.2.1, rfl, hp, ?_, ?_⟩
      · obtain heq | ⟨-, bytes, -, hof, hbytes⟩ := hnew
        · exact fun htype => heq ▸ hmask htype
        · exact hof.fits hbytes
      · rw [← hput]
        exact (UdfSame.of_call _ env rfl).putUdf _ _

/-! ## Runs -/

section Runs

variable {A : Type} {tree : UdfDb → Oid → Option A} {npu : UdfDb → Oid → Bool}

theorem udfGroupAttrSet_unlisted {attr_list} : ∀ attr_idx (group : UdfGroup),
    (udfGroupAttrSet attr_idx attr_list group).2.udf_list = group.udf_list ∧
    (udfGroupAttrSet attr_idx attr_list group).2.udf_count = group.udf_count := by
  induction attr_list with
  | nil => exact fun _ _ => ⟨rfl, rfl⟩
  | cons attr attr_list ih =>
    intro attr_idx group
    have hstore : (udfGroupAttrStore group attr).2.udf_list = group.udf_list ∧
        (udfGroupAttrStore group attr).2.udf_count = group.udf_count := by
      unfold udfGroupAttrStore
      repeat' split
      all_goals exact ⟨rfl, rfl⟩
    simp only [udfGroupAttrSet]
    split
    · exact hstore
    · exact ⟨(ih _ _).1.trans hstore.1, (ih _ _).2.trans hstore.2⟩

theorem udfGroupCreate_made {attr_list}
    (hok : (udfGroupCreate env attr_list db).1 = .success) :
    ∃ log, env.outside log (.groupCreate (uoidCreate .udfGroup env.hw_id)) = .success := by
  simp only [udfGroupCreate] at hok
  repeat' split at hok
  all_goals first | exact absurd hok ‹_› | exact ⟨_, not_not.mp ‹_›⟩ | cases hok

theorem udfCreate_made {attr_list} (hok : (udfCreate env attr_list db).1 = .success) :
    ∃ log, env.outside log (.udfCreate (uoidCreate .udf env.hw_id)) = .success := by
  simp only [udfCreate] at hok
  repeat' split at hok
  all_goals first | exact absurd hok ‹_› | exact ⟨_, not_not.mp ‹_›⟩ | cases hok

theorem UdfCreateFits.not_lost {made insert} {old : Bool}
    (h : UdfCreateFits env made insert old) (why : UdfTreeFull env made insert ∨ old = true) :
    ¬ ∃ log, env.outside log made = .success := by
  rintro ⟨log, hok⟩
  obtain ⟨log', hok', hfull⟩ | hold := why
  · exact hfull (h log' hok').1
  · rw [(h log hok).2] at hold
    cases hold

theorem UdfCreateRight.refused
    {rc} (bad : rc ≠ .success) (same : UdfSame db db') (htree : tree db' = tree db) :
    UdfCreateRight tree npu db (rc, .null, db') := by
  refine ⟨iff_of_false bad fun ⟨hold, hnew, _⟩ => ?_, fun _ => same⟩
  change (tree db' _).isSome = true at hnew
  rw [htree, hold] at hnew
  cases hnew

theorem UdfCreateRight.made
    (fresh : tree db id = none) (live : (tree db' id).isSome = true) (held : npu db' id = true) :
    UdfCreateRight tree npu db (.success, id, db') :=
  ⟨iff_of_true rfl ⟨fresh, live, held⟩, fun hbad => absurd rfl hbad⟩

/-- **A remove** keeps the lists: where the NPU refuses it, the tree takes the UDF back. -/
theorem udfRemove_agree (h : UdfsAgree db) (hfits : UdfOpFits (.udfRemove env id) db) :
    UdfsAgree (udfRemove env id db).2 := by
  unfold udfRemove
  split
  · exact h
  rename_i htype
  cases hget : db.udfs id with
  | none => exact h
  | some udf =>
    dsimp only
    have htwice := UdfSame.call_twice (db.putUdf id none) env (.udfRemove id) (d := .udfInsert id) fun _ => rfl
    dsimp only at htwice
    rcases htwice with ⟨hbad, -, -, hback⟩ | ⟨hok, hgone, -⟩
    · rw [if_pos hbad]
      have hinsert : (((db.putUdf id none).call env (.udfRemove id)).2.call env (.udfInsert id)).1 = .success := by
        show env.outside (UdfDb.outside_log _) _ = _
        rw [UdfDb.call_log]
        exact (hfits (not_not.mp htype) (by rw [hget]; rfl)).resolve_left hbad
      rw [if_pos hinsert]
      refine h.of_same ?_
      have hput := hback.putUdf id (some udf)
      rwa [putUdf_putUdf, putUdf_self hget] at hput
    · rw [if_ok hok]
      have same := hgone.modGroup udf.p_udf_group (udfGroupListRemove id)
      obtain ⟨group, hgroup, -⟩ := h.masks id udf hget
      have hkey : (db.udfs id).map Udf.p_udf_group = some udf.p_udf_group := by
        rw [hget]
        rfl
      refine h.putUdf hgroup (f := udfGroupListRemove id) (l := (·.erase id)) ⟨rfl, rfl, ?_, rfl⟩
        (h.lists.erase hkey) (fun _ hmem => absurd hmem (Option.not_mem_none _)) same.groups same.udfs ?_
      · have hmem := (h.lists.mem _ id).mpr hkey
        rw [listOf_eq hgroup] at hmem
        exact (congrArg (· - 1) (h.counts _ _ hgroup)).trans (List.length_erase_of_mem hmem).symm
      · exact congrFun same.npu_udfs

/-- **A step** under its condition keeps the agreement, and its call is right. -/
theorem udfStep_right (op) (h : UdfsAgree db) (hfits : UdfOpFits op db) :
    UdfsAgree (udfStep op db) ∧ UdfCallRight op db := by
  cases op with
  | groupCreate env attr_list =>
    have hx := udfGroupCreate_does env db attr_list
    change UdfsAgree (udfGroupCreate env attr_list db).2.2 ∧ UdfCreateRight _ _ db (udfGroupCreate env attr_list db)
    have hmade := @udfGroupCreate_made env db attr_list
    generalize udfGroupCreate _ _ _ = x at hx hmade ⊢
    cases hx with
    | refused bad same => exact ⟨h.of_same same, .refused bad same same.groups⟩
    | lost same why => exact absurd (hmade rfl) (UdfCreateFits.not_lost hfits why)
    | created fresh same =>
      have hlist : db.listOf (uoidCreate .udfGroup env.hw_id) = [] := by
        rw [UdfDb.listOf, fresh]
        rfl
      refine ⟨(h.putGroup hlist _ ?_).congr same.groups same.udfs same.npu_udfs, .made fresh ?_ ?_⟩
      · exact fun group hgroup => Option.some.inj hgroup ▸ udfGroupAttrSet_unlisted 0 _
      · rw [same.groups]
        exact congrArg Option.isSome (if_pos rfl)
      · rw [same.npu_groups]
        exact if_pos rfl
  | groupRemove env id =>
    refine ⟨?_, trivial⟩
    show UdfsAgree (udfGroupRemove env id db).2
    by_cases hused : ∃ group, db.groups id = some group ∧ group.udf_count = 0
    · obtain ⟨group, hget, hzero⟩ := hused
      have hempty := List.eq_nil_of_length_eq_zero ((h.counts id _ hget).symm.trans hzero)
      have hlist := (listOf_eq hget).trans hempty
      have hnone := h.putGroup hlist none nofun
      have hx := udfGroupRemove_does env db id
      generalize udfGroupRemove _ _ _ = x at hx ⊢
      cases hx with
      | refused => exact h
      | ignored => exact h
      | kept _ get _ same =>
        refine same.elim (fun same => ?_) hnone.of_same
        refine (h.putGroup hlist _ fun new hnew => ?_).of_same same
        rw [← Option.some.inj hnew, ← Option.some.inj (hget.symm.trans get)]
        exact ⟨hempty, hzero⟩
      | gone _ _ _ same => exact hnone.congr same.groups same.udfs same.npu_udfs
    · unfold udfGroupRemove
      split
      · exact h
      cases hget : db.groups id with
      | none => exact h
      | some group =>
        dsimp only
        rw [if_pos fun hzero => hused ⟨group, hget, hzero⟩]
        exact h
  | udfCreate env attr_list =>
    have hx := udfCreate_does env db attr_list
    change UdfsAgree (udfCreate env attr_list db).2.2 ∧ UdfCreateRight _ _ db (udfCreate env attr_list db)
    have hmade := @udfCreate_made env db attr_list
    generalize udfCreate _ _ _ = x at hx hmade ⊢
    cases hx with
    | refused bad same => exact ⟨h.of_same same, .refused bad same same.udfs⟩
    | lost same why => exact absurd (hmade rfl) (UdfCreateFits.not_lost hfits why)
    | created fresh valid start set node same =>
      obtain ⟨oid, hmem⟩ := env.create_checks _ valid
      obtain ⟨group, hgroup, hmask⟩ := udfAttrSet_fits set (List.any_eq_true.mpr ⟨_, hmem, rfl⟩)
      rw [node, start.groups] at hgroup
      rw [node] at hmask
      refine ⟨?_, .made fresh ?_ ?_⟩
      · refine h.putUdf hgroup (f := udfGroupListAdd _) (l := (· ++ [_])) ⟨rfl, rfl, ?_, rfl⟩
          (h.lists.append ?_ _) ?_ same.groups same.udfs ?_
        · simp only [udfGroupListAdd, List.length_append, List.length_singleton, h.counts _ _ hgroup]
        · rw [fresh]
          rfl
        · exact fun udf hudf => Option.some.inj hudf ▸ ⟨rfl, hmask⟩
        · exact congrFun same.npu_udfs
      · rw [same.udfs]
        exact congrArg Option.isSome (if_pos rfl)
      · rw [same.npu_udfs]
        exact if_pos rfl
  | udfRemove env id => exact ⟨udfRemove_agree h hfits, trivial⟩
  | udfSet env id attr =>
    obtain ⟨hbad, same⟩ | ⟨hok, udf, new, hget, hp, hmask, same⟩ := udfSetAttribute_does h hfits
    · exact ⟨h.of_same same, fun _ => same⟩
    refine ⟨?_, fun hbad => absurd hok hbad⟩
    obtain ⟨group, hgroup, -⟩ := h.masks id udf hget
    rw [groupOf_eq hgroup] at hmask
    have hudfs : ∀ u, (db.putUdf id (some new)).udfs u = if u = id then some new else db.udfs u := fun _ => rfl
    have hkey : ∀ u, ((db.putUdf id (some new)).udfs u).map Udf.p_udf_group = (db.udfs u).map Udf.p_udf_group := by
      intro u
      rw [hudfs]
      split
      next hu =>
        rw [hu, hget]
        exact congrArg some hp
      · rfl
    refine @UdfsAgree.of_same (db.putUdf id (some new)) _ ⟨?_, fun u => ?_, h.counts, fun u udf hu => ?_⟩ same
    · rw [funext hkey]
      exact h.lists
    · refine (h.npu u).trans ?_
      rw [← Option.isSome_map (f := Udf.p_udf_group), ← hkey, Option.isSome_map]
    · rw [hudfs] at hu
      split at hu
      · rw [← Option.some.inj hu, hp]
        exact ⟨group, hgroup, hmask⟩
      · exact h.masks u udf hu

/-- **UDFs, groups and NPU agree** in every run that meets the condition, and every call that meets it is
right. -/
theorem udfsRight_of_run (hrun : Run udfStep UdfOpFits .initial db) :
    UdfsAgree db ∧ ∀ op, UdfOpFits op db → UdfCallRight op db := by
  have h : UdfsAgree db := by
    refine hrun.induct (fun op _ h hfits => (udfStep_right op h hfits).1) ⟨⟨?_, ?_⟩, fun _ => rfl, ?_, ?_⟩
    · exact fun _ => List.nodup_nil
    · exact fun _ _ => iff_of_false List.not_mem_nil fun hkey => by cases hkey
    · exact fun _ _ hget => by cases hget
    · exact fun _ _ hget => by cases hget
  exact ⟨h, fun op hfits => (udfStep_right op h hfits).2⟩

end Runs

def udfHashed : UdfDb :=
  udfStep (.udfCreate (.good 8) [.groupId ⟨.udfGroup, 7⟩])
    (udfStep (.groupCreate (.good 7) [.type .hash, .length 2]) .initial)

def udfMask : UdfAttr := .hashMask (some [1, 2])

theorem udfsRight_of_run_masked : UdfsAgree (udfStep (.udfSet (.good 0) ⟨.udf, 8⟩ udfMask) udfHashed) :=
  (udfsRight_of_run ((((Run.nil UdfDb.initial).snoc _ (by exact fun _ _ => ⟨rfl, rfl⟩)).snoc _
    (by exact fun _ _ => ⟨rfl, rfl⟩)).snoc _ (by exact fun _ _ => rfl))).1

/-- **The NPU refuses a mask** that the node has by then. -/
theorem not_udfsRight : ¬ ∀ db, Run udfStep (fun _ _ => True) .initial db → ∀ op, UdfCallRight op db := by
  intro h
  have hsame := h udfHashed (((Run.nil UdfDb.initial).snoc _ trivial).snoc _ trivial)
    (.udfSet { UdfEnv.good 0 with outside := fun _ _ => .failure } ⟨.udf, 8⟩ udfMask) (by decide)
  exact absurd (congrFun hsame.udfs ⟨.udf, 8⟩) (by decide)

end OpxSai
