import Mathlib.Logic.Basic
import OpxSai.Udf.Udf

/-!
# What a call on UDFs leaves

Each call leaves its module, and what comes of it is one of a few ways. The trees and the NPU may refuse at
any point.
-/

variable (db : UdfDb) (id : Oid) (env : UdfEnv)

namespace OpxSai

open UdfDb

structure UdfSame (db db' : UdfDb) : Prop where
  groups : db'.groups = db.groups
  udfs : db'.udfs = db.udfs
  npu_groups : db'.npu_groups = db.npu_groups
  npu_udfs : db'.npu_udfs = db.npu_udfs

namespace UdfSame

variable {db db' : UdfDb}

theorem refl (db) : UdfSame db db := ⟨rfl, rfl, rfl, rfl⟩

theorem trans {db₁} (h : UdfSame db db₁) (k : UdfSame db₁ db') : UdfSame db db' :=
  ⟨k.groups.trans h.groups, k.udfs.trans h.udfs, k.npu_groups.trans h.npu_groups, k.npu_udfs.trans h.npu_udfs⟩

theorem call (db) (env) (c) :
    ((db.call env c).1 ≠ .success ∧ UdfSame db (db.call env c).2) ∨
    ((db.call env c).1 = .success ∧ UdfSame (db.apply c) (db.call env c).2) := by
  have hanswer : (db.call env c).1 = env.outside db.outside_log c := rfl
  simp only [UdfDb.call]
  split
  next hok => exact .inr ⟨hok, by cases c <;> exact ⟨rfl, rfl, rfl, rfl⟩⟩
  next hbad => exact .inl ⟨hbad, rfl, rfl, rfl, rfl⟩

theorem of_call (db) (env) {c} (hc : db.apply c = db) : UdfSame db
    (db.call env c).2 := by
  rcases call db env c with ⟨-, h⟩ | ⟨-, h⟩
  · exact h
  · rw [hc] at h
    exact h

theorem putGroup (h : UdfSame db db') {id} {group} :
    UdfSame (db.putGroup id group) (db'.putGroup id group) :=
  ⟨by simp only [UdfDb.putGroup, h.groups], h.udfs, h.npu_groups, h.npu_udfs⟩

theorem putUdf (h : UdfSame db db') (id) (udf) : UdfSame (db.putUdf id udf)
    (db'.putUdf id udf) :=
  ⟨h.groups, by simp only [UdfDb.putUdf, h.udfs], h.npu_groups, h.npu_udfs⟩

theorem apply (h : UdfSame db db') (c) : UdfSame (db.apply c) (db'.apply c) := by
  obtain ⟨hgroups, hudfs, hnpu_groups, hnpu_udfs⟩ := h
  cases c <;> exact ⟨hgroups, hudfs, by simp only [UdfDb.apply, hnpu_groups], by simp only [UdfDb.apply, hnpu_udfs]⟩

theorem modGroup (h : UdfSame db db') (id) (f : UdfGroup → UdfGroup) :
    UdfSame (db.modGroup id f) (db'.modGroup id f) :=
  ⟨by simp only [UdfDb.modGroup, h.groups], h.udfs, h.npu_groups, h.npu_udfs⟩

end UdfSame

theorem UdfDb.putGroup_putGroup {a} (b) :
    (db.putGroup id a).putGroup id b = db.putGroup id b := by
  simp only [UdfDb.putGroup, UdfDb.mk.injEq, and_true]
  funext o
  split <;> rfl

theorem UdfDb.putUdf_putUdf (a b) : (db.putUdf id a).putUdf id b = db.putUdf id b := by
  simp only [UdfDb.putUdf, UdfDb.mk.injEq, true_and, and_true]
  funext o
  split <;> rfl

theorem UdfDb.call_log (c) :
    (db.call env c).2.outside_log = env.outside.log c db.outside_log := by
  simp only [UdfDb.call]
  split
  · cases c <;> rfl
  · rfl

def UdfTreeFull (made insert : UdfCall) : Prop :=
  ∃ log, env.outside log made = .success ∧ env.outside (env.outside.log made log) insert ≠ .success

theorem UdfSame.call_twice (db) (env) (c) {d}
    (hd : ∀ db' : UdfDb, db'.apply d = db') :
    let made := db.call env c
    let inserted := made.2.call env d
    (made.1 ≠ .success ∧ (∃ log, env.outside log c ≠ .success) ∧ UdfSame db made.2 ∧ UdfSame db inserted.2) ∨
    (made.1 = .success ∧ UdfSame (db.apply c) made.2 ∧ UdfSame (db.apply c) inserted.2 ∧
      (inserted.1 ≠ .success → UdfTreeFull env c d)) := by
  have hinsert := UdfSame.of_call (db.call env c).2 env (hd _)
  rcases UdfSame.call db env c with ⟨hbad, hsame⟩ | ⟨hok, hsame⟩
  · exact .inl ⟨hbad, ⟨db.outside_log, hbad⟩, hsame, hsame.trans hinsert⟩
  refine .inr ⟨hok, hsame, hsame.trans hinsert, fun hfull => ⟨db.outside_log, hok, ?_⟩⟩
  rw [← UdfDb.call_log]
  exact hfull

/-- **All that a create of a group can do**: nothing, a group in the NPU alone, or a group. -/
inductive UdfGroupCreates (env : UdfEnv) (attr_list : List UdfGroupAttr) (db : UdfDb) (id : Oid) :
    Status × Oid × UdfDb → Prop where
  | refused {rc : Status} {db' : UdfDb} (bad : rc ≠ .success) (same : UdfSame db db') :
      UdfGroupCreates env attr_list db id (rc, .null, db')
  | lost {db' : UdfDb} (same : UdfSame (db.apply (.groupCreate id)) db')
      (why : UdfTreeFull env (.groupCreate id) (.groupInsert id) ∨ (db.groups id).isSome = true) :
      UdfGroupCreates env attr_list db id (.success, id, db')
  | created {db' : UdfDb} (fresh : db.groups id = none)
      (same : UdfSame ((db.apply (.groupCreate id)).putGroup id (some (udfGroupAttrSet 0 attr_list .zero).2)) db') :
      UdfGroupCreates env attr_list db id (.success, id, db')

/-- **All that a remove of a group can do**: it finds no group without UDFs, the NPU refuses it and the tree
takes the group back or not, or the group goes. -/
inductive UdfGroupRemoves (env : UdfEnv) (id : Oid) (db : UdfDb) : Status × UdfDb → Prop where
  | refused (type : id.type ≠ .udfGroup) : UdfGroupRemoves env id db (.invalidObjectType, db)
  | ignored (type : id.type = .udfGroup)
      (used : ¬ ∃ group, db.groups id = some group ∧ group.udf_count = 0) : UdfGroupRemoves env id db (.success, db)
  | kept {group : UdfGroup} {db' : UdfDb} (type : id.type = .udfGroup) (get : db.groups id = some group)
      (npu : ∃ log, env.outside log (.groupRemove id) ≠ .success)
      (same : UdfSame (db.putGroup id (some group)) db' ∨ UdfSame (db.putGroup id none) db') :
      UdfGroupRemoves env id db (.success, db')
  | gone {group : UdfGroup} {db' : UdfDb} (type : id.type = .udfGroup) (get : db.groups id = some group)
      (empty : group.udf_count = 0) (same : UdfSame ((db.putGroup id none).apply (.groupRemove id)) db') :
      UdfGroupRemoves env id db (.success, db')

/-- **All that a create of a UDF can do**: nothing, a UDF in the NPU alone, or a UDF on the list of its group. -/
inductive UdfCreates (env : UdfEnv) (attr_list : List UdfAttr) (db : UdfDb) (id : Oid) :
    Status × Oid × UdfDb → Prop where
  | refused {rc : Status} {db' : UdfDb} (bad : rc ≠ .success) (same : UdfSame db db') :
      UdfCreates env attr_list db id (rc, .null, db')
  | lost {db' : UdfDb} (same : UdfSame (db.apply (.udfCreate id)) db')
      (why : UdfTreeFull env (.udfCreate id) (.udfInsert id) ∨ (db.udfs id).isSome = true) :
      UdfCreates env attr_list db id (.success, id, db')
  | created {udf : Udf} {db₀ db' : UdfDb} (fresh : db.udfs id = none) (valid : env.udf_validate attr_list = .success)
      (start : UdfSame db db₀) (set : (udfAttrSet env true attr_list .zero db₀).1 = .success)
      (node : (udfAttrSet env true attr_list .zero db₀).2.1 = udf)
      (same : UdfSame (((db.apply (.udfCreate id)).putUdf id (some udf)).modGroup udf.p_udf_group
        (udfGroupListAdd id)) db') : UdfCreates env attr_list db id (.success, id, db')

/-- **All that a remove of a UDF can do**: nothing, the NPU refuses it and the tree takes the UDF back or not, or
the UDF goes. -/
inductive UdfRemoves (env : UdfEnv) (id : Oid) (db : UdfDb) : Status × UdfDb → Prop where
  | refused {rc : Status} (bad : rc ≠ .success) (gone : id.type ≠ .udf ∨ db.udfs id = none) :
      UdfRemoves env id db (rc, db)
  | kept {udf : Udf} {rc : Status} {db' : UdfDb} (bad : rc ≠ .success) (type : id.type = .udf)
      (get : db.udfs id = some udf)
      (npu : ∃ log, env.outside log (.udfRemove id) ≠ .success)
      (same : UdfSame (db.putUdf id (some udf)) db' ∨ UdfSame (db.putUdf id none) db') :
      UdfRemoves env id db (rc, db')
  | gone {udf : Udf} {db' : UdfDb} (type : id.type = .udf) (get : db.udfs id = some udf)
      (same : UdfSame (((db.putUdf id none).apply (.udfRemove id)).modGroup udf.p_udf_group
        (udfGroupListRemove id)) db') : UdfRemoves env id db (.success, db')

section Does

variable (env : UdfEnv) (db : UdfDb)

theorem UdfSame.createBack : UdfSame db (udfCreateBack env db) := by
  simp only [udfCreateBack]
  split
  · exact .of_call db env rfl
  · exact .refl db

theorem udfGroupCreate_does (attr_list) :
    UdfGroupCreates env attr_list db (uoidCreate .udfGroup env.hw_id) (udfGroupCreate env attr_list db) := by
  simp only [udfGroupCreate]
  split
  next hbad => exact .refused hbad (.refl db)
  have halloc := UdfSame.of_call db env (c := .nodeAlloc) rfl
  generalize db.call _ _ = alloc at halloc ⊢
  split
  · exact .refused (by simp) halloc
  split
  next hbad => exact .refused hbad halloc
  have htwice := UdfSame.call_twice alloc.2 env (.groupCreate (uoidCreate .udfGroup env.hw_id))
    (d := .groupInsert (uoidCreate .udfGroup env.hw_id)) fun _ => rfl
  dsimp only at htwice
  rcases htwice with ⟨hbad, -, hmade, -⟩ | ⟨hok, -, hinserted, hfull⟩
  · rw [if_pos hbad]
    exact .refused hbad ((halloc.trans hmade).trans (.createBack ..))
  rw [if_ok hok]
  have hall := (halloc.apply _).trans hinserted
  have hgroups : ∀ o, (alloc.2.call env (.groupCreate (uoidCreate .udfGroup env.hw_id))).2.call env
      (.groupInsert (uoidCreate .udfGroup env.hw_id)) |>.2.groups o = db.groups o := fun o => congrFun hall.groups o
  split
  next hwhy =>
    rw [hgroups] at hwhy
    exact .lost hall (hwhy.imp_left hfull)
  rename_i hfresh
  rw [hgroups] at hfresh
  exact .created (Option.not_isSome_iff_eq_none.mp (not_or.mp hfresh).2) hall.putGroup

theorem udfGroupRemove_does (id) : UdfGroupRemoves env id db (udfGroupRemove env id db) := by
  simp only [udfGroupRemove]
  split
  next htype => exact .refused htype
  rename_i htype
  have htype := not_not.mp htype
  cases hget : db.groups id with
  | none => exact .ignored htype fun ⟨_, hsome, _⟩ => by rw [hget] at hsome; cases hsome
  | some group =>
    dsimp only
    split
    next hused =>
      refine .ignored htype fun ⟨_, hsome, hzero⟩ => hused ?_
      rw [← Option.some.inj (hget.symm.trans hsome)] at hzero
      exact hzero
    rename_i hempty
    have htwice := UdfSame.call_twice (db.putGroup id none) env (.groupRemove id) (d := .groupInsert id) fun _ => rfl
    dsimp only at htwice
    rcases htwice with ⟨hbad, hnpu, -, hback⟩ | ⟨hok, hgone, -⟩
    · rw [if_pos hbad]
      refine .kept htype hget hnpu ?_
      split
      · rw [← UdfDb.putGroup_putGroup db id]
        exact .inl hback.putGroup
      · exact .inr hback
    · rw [if_ok hok]
      exact .gone htype hget (not_not.mp hempty) hgone

theorem UdfSame.hashMaskSet (udf) (hash_mask : Option (List UInt8)) :
    UdfSame db (udfHashMaskSet env udf hash_mask db).2.2 := by
  simp only [udfHashMaskSet]
  repeat' split
  all_goals first | exact .refl db | exact .of_call db env rfl

theorem UdfSame.attrSet (is_create : Bool) (attr_list) (udf) :
    UdfSame db (udfAttrSet env is_create attr_list udf db).2.2 := by
  simp only [udfAttrSet, udfDefaultHashMaskFill]
  repeat' split
  all_goals first | exact .refl db | exact .of_call db env rfl | exact .hashMaskSet ..

theorem udfCreate_does (attr_list) :
    UdfCreates env attr_list db (uoidCreate .udf env.hw_id) (udfCreate env attr_list db) := by
  simp only [udfCreate]
  split
  next hbad => exact .refused hbad (.refl db)
  rename_i hvalid
  have halloc := UdfSame.of_call db env (c := .nodeAlloc) rfl
  generalize db.call _ _ = alloc at halloc ⊢
  split
  · exact .refused (by simp) halloc
  have hattrs := halloc.trans (UdfSame.attrSet env alloc.2 true attr_list .zero)
  split
  next hbad => exact .refused hbad hattrs
  rename_i hset
  generalize hvals : udfAttrSet _ _ _ _ _ = set at hattrs hset ⊢
  have htwice := UdfSame.call_twice set.2.2 env (.udfCreate (uoidCreate .udf env.hw_id))
    (d := .udfInsert (uoidCreate .udf env.hw_id)) fun _ => rfl
  dsimp only at htwice
  rcases htwice with ⟨hbad, -, hmade, -⟩ | ⟨hok, -, hinserted, hfull⟩
  · rw [if_pos hbad]
    exact .refused hbad ((hattrs.trans hmade).trans (.createBack ..))
  rw [if_ok hok]
  have hall := (hattrs.apply _).trans hinserted
  have hudfs : ∀ o, (set.2.2.call env (.udfCreate (uoidCreate .udf env.hw_id))).2.call env
      (.udfInsert (uoidCreate .udf env.hw_id)) |>.2.udfs o = db.udfs o := fun o => congrFun hall.udfs o
  split
  next hwhy =>
    rw [hudfs] at hwhy
    exact .lost hall (hwhy.imp_left hfull)
  rename_i hfresh
  rw [hudfs] at hfresh
  refine .created (Option.not_isSome_iff_eq_none.mp (not_or.mp hfresh).2) (not_not.mp hvalid) halloc ?_
    (congrArg (fun x => x.2.1) hvals) ((hall.putUdf _ _).modGroup _ _)
  rw [hvals]
  exact not_not.mp hset

theorem udfRemove_does (id) : UdfRemoves env id db (udfRemove env id db) := by
  simp only [udfRemove]
  split
  next htype => exact .refused (by simp) (.inl htype)
  rename_i htype
  cases hget : db.udfs id with
  | none => exact .refused (by simp) (.inr hget)
  | some udf =>
    dsimp only
    have htwice := UdfSame.call_twice (db.putUdf id none) env (.udfRemove id) (d := .udfInsert id) fun _ => rfl
    dsimp only at htwice
    rcases htwice with ⟨hbad, hnpu, -, hback⟩ | ⟨hok, hgone, -⟩
    · rw [if_pos hbad]
      refine .kept hbad (not_not.mp htype) hget hnpu ?_
      split
      · rw [← UdfDb.putUdf_putUdf db id _]
        exact .inl (hback.putUdf id _)
      · exact .inr hback
    · rw [if_ok hok]
      exact .gone (not_not.mp htype) hget (hgone.modGroup _ _)

end Does

end OpxSai
