import Mathlib.Logic.Basic
import OpxSai.Hash.Hash
import OpxSai.Lib.Run

/-!
# Hash objects, the switch and the NPU

An attribute of the switch has the fields of its object in the NPU, and an object counts the attributes
that point to it. A set on an object that is used goes to the NPU first and to the object then: where there
is no room for the list of the object, the NPU keeps the new fields. And two errors keep the lock.

* `HashOpFits`, `hashAgrees_of_run` — the condition, and that the property holds in every run under it.
-/

namespace OpxSai

open HashDb
variable {o : Oid}

/-! ## The calls -/

inductive HashOp where
  | create (env : HashEnv) (attr_list : List HashAttr)
  | remove (hash_obj_id : Oid)
  | setAttr (env : HashEnv) (hash_obj_id : Oid) (attr : HashAttr)
  | switchSet (env : HashEnv) (attr_id : SwitchHashAttr) (hash_obj_id : Oid)

/-- What a call answers and leaves; a call that waits for ever is `none`. -/
def hashExec (max_hash_index : Nat) : HashOp → HashDb → Option (Status × HashDb)
  | .create env attr_list, db =>
    (hashObjCreate max_hash_index env attr_list db).map fun made => (made.1, made.2.2)
  | .remove hash_obj_id, db => hashObjRemove hash_obj_id db
  | .setAttr env hash_obj_id attr, db => hashObjSetAttr env hash_obj_id attr db
  | .switchSet env attr_id hash_obj_id, db => switchHashAttrSet env attr_id hash_obj_id db

def hashStep (max_hash_index : Nat) (op : HashOp) (db : HashDb) : HashDb :=
  (hashExec max_hash_index op db).elim db Prod.snd

/-- The lists of the object that an attribute points to; the null object has none. -/
def HashDb.fieldsOf (db : HashDb) (attr_id : SwitchHashAttr) : HashFields :=
  ((db.hash_obj_types attr_id).bind db.hash_objs).elim .empty HashObject.toHashFields

def HashDb.pointing (db : HashDb) (obj_id : Oid) : Nat :=
  SwitchHashAttr.all.countP fun a => db.hash_obj_types a == some obj_id

structure HashSame (db db' : HashDb) : Prop where
  objs : db'.hash_objs = db.hash_objs
  types : db'.hash_obj_types = db.hash_obj_types
  hw : db'.hw_fields = db.hw_fields

/-! ## Condition -/

def NpuTakesFields (env : HashEnv) (points : SwitchHashAttr → Bool) (fields : HashFields) :
    List SwitchHashAttr → CallLog HashCall → Prop
  | [], _ => True
  | a :: attrs, log =>
    if points a = true then
      env.outside log (.switchHashFieldsSet a fields false) = .success ∧
      NpuTakesFields env points fields attrs
        (env.outside.log (.switchHashFieldsSet a fields false) log)
    else NpuTakesFields env points fields attrs log

def HashRoom (env : HashEnv) : HashAttr → Prop
  | .nativeHashFieldList s32list => s32list = [] ∨ env.native_list_alloc s32list.length = true
  | .udfGroupList objlist => objlist = [] ∨ env.udf_list_alloc objlist.length = true
  | .unknown _ => True

/-- **When a set on an object keeps its promise.** Its UDF groups are valid, and where the NPU takes the
new fields for every attribute of an object that is used, there is room for the list. -/
structure HashSetFits (env : HashEnv) (hash_obj_id : Oid) (attr : HashAttr) (db : HashDb) : Prop where
  groups : env.validate [attr] = .success → (db.hash_objs hash_obj_id).isSome = true →
    hashUdfListInvalid env attr = false
  room : ∀ obj fields, db.hash_objs hash_obj_id = some obj → obj.ref_count > 0 →
    hashFieldsWith obj attr = some fields →
    NpuTakesFields env (fun a => db.hash_obj_types a == some hash_obj_id) fields SwitchHashAttr.all
      db.outside_log → HashRoom env attr

/-- The calls that take fields back succeed, a set on an object keeps its promise, and an attribute of the
switch is set to a hash object or to the null object. -/
def HashOpFits : HashOp → HashDb → Prop
  | .setAttr env hash_obj_id attr, db =>
    (∀ log a fields, env.outside log (.switchHashFieldsSet a fields true) = .success) ∧
    HashSetFits env hash_obj_id attr db
  | .switchSet _ _ hash_obj_id, _ => hash_obj_id ≠ .null → hash_obj_id.type = .hash
  | _, _ => True

/-- **Hash attributes, objects and the NPU agree.** -/
structure HashAgrees (max_hash_index : Nat) (db : HashDb) : Prop where
  /-- What was given last for an attribute is the lists of its object. -/
  programmed : ∀ a fields, db.hw_fields a = some fields → fields = db.fieldsOf a
  given : ∀ a, db.hash_obj_types a ≠ none → db.hw_fields a ≠ none
  counted : ∀ obj_id obj, db.hash_objs obj_id = some obj → obj.ref_count = db.pointing obj_id
  removable : ∀ obj_id, (db.hash_objs obj_id).isSome = true →
    ((∃ db', hashObjRemove obj_id db = some (.success, db')) ↔ db.pointing obj_id = 0)
  unchanged : ∀ op, HashOpFits op db → ∀ rc db', hashExec max_hash_index op db = some (rc, db') →
    rc ≠ .success → HashSame db db'

/-! ## Counting -/

theorem countP_update {α : Type} [DecidableEq α] (p : α → Bool) (a : α) (b : Bool) :
    ∀ l : List α, l.Nodup → a ∈ l →
      (l.countP fun x => if x = a then b else p x) + (p a).toNat = l.countP p + b.toNat := by
  have hrest : ∀ l : List α, a ∉ l → (l.countP fun x => if x = a then b else p x) = l.countP p := by
    intro l hnot
    refine List.countP_congr fun x hx => ?_
    have hne : x ≠ a := by
      rintro rfl
      exact hnot hx
    rw [if_neg hne]
  intro l
  induction l with
  | nil => exact fun _ h => absurd h List.not_mem_nil
  | cons x l ih =>
    intro hnodup hmem
    obtain ⟨hfresh, hnodup⟩ := List.nodup_cons.mp hnodup
    rw [List.countP_cons, List.countP_cons]
    rcases List.mem_cons.mp hmem with heq | hin
    · subst heq
      rw [hrest l hfresh, if_pos rfl]
      cases b <;> cases p a <;> simp <;> omega
    have hne : x ≠ a := fun heq => hfresh (heq ▸ hin)
    rw [if_neg hne]
    have := ih hnodup hin
    omega

theorem switchHashAttrs_nodup : SwitchHashAttr.all.Nodup := by decide

theorem mem_switchHashAttrs (a) : a ∈ SwitchHashAttr.all := by
  cases a <;> decide

theorem pointing_setHashObj {db db' : HashDb} {a : SwitchHashAttr} {new : Option Oid}
    (htypes : ∀ b, db'.hash_obj_types b = if b = a then new else db.hash_obj_types b) (o) :
    db'.pointing o + (db.hash_obj_types a == some o).toNat =
      db.pointing o + (new == some o).toNat := by
  have hupdate := countP_update (fun b => db.hash_obj_types b == some o) a (new == some o)
    SwitchHashAttr.all switchHashAttrs_nodup (mem_switchHashAttrs a)
  have hsame : (fun b => db'.hash_obj_types b == some o) =
      fun b => if b = a then new == some o else db.hash_obj_types b == some o := by
    funext b
    rw [htypes]
    split <;> rfl
  rw [pointing, hsame]
  exact hupdate

theorem pointing_pos {db : HashDb} {a : SwitchHashAttr} (h : db.hash_obj_types a = some o) :
    0 < db.pointing o :=
  List.countP_pos_iff.mpr ⟨a, mem_switchHashAttrs a, by simp [h]⟩

theorem pointing_zero {db : HashDb} (h : db.pointing o = 0) (a) :
    db.hash_obj_types a ≠ some o := by
  intro heq
  have := pointing_pos heq
  omega

/-! ## The loop over the attributes -/

/-- Nothing differs but what the NPU was given, and the log. -/
structure OnlyFields (db db' : HashDb) : Prop where
  objs : db'.hash_objs = db.hash_objs
  types : db'.hash_obj_types = db.hash_obj_types
  locked : db'.locked = db.locked

namespace OnlyFields

theorem refl (db) : OnlyFields db db := ⟨rfl, rfl, rfl⟩

theorem trans {db₁ db₂ db₃} (h : OnlyFields db₁ db₂) (h' : OnlyFields db₂ db₃) :
    OnlyFields db₁ db₃ :=
  ⟨h'.objs.trans h.objs, h'.types.trans h.types, h'.locked.trans h.locked⟩

theorem call (db) (env) (c) : OnlyFields db (db.call env c).2 := by
  cases c with
  | nodeAlloc | insert obj_id => exact ⟨rfl, rfl, rfl⟩
  | switchHashFieldsSet a fields back =>
    simp only [HashDb.call]
    split <;> exact ⟨rfl, rfl, rfl⟩

end OnlyFields

section Loop

variable (env : HashEnv) (obj_id : Oid)

variable {db : HashDb} {a : SwitchHashAttr} (fields : HashFields)

theorem call_hw_ok {fields} {back : Bool}
    (h : (db.call env (.switchHashFieldsSet a fields back)).1 = .success) :
    (db.call env (.switchHashFieldsSet a fields back)).2.hw_fields =
      fun b => if b = a then some fields else db.hw_fields b := by
  simp only [HashDb.call] at h ⊢
  rw [if_pos h]

theorem call_hw_failed {fields} {back : Bool}
    (h : (db.call env (.switchHashFieldsSet a fields back)).1 ≠ .success) :
    (db.call env (.switchHashFieldsSet a fields back)).2.hw_fields = db.hw_fields := by
  simp only [HashDb.call] at h ⊢
  rw [if_neg h]

structure FieldsApplied (fields : HashFields) (attrs : List SwitchHashAttr) (rc : Status) (db : HashDb)
    (w : HashApplied) : Prop where
  only : OnlyFields db w.db
  hw : ∀ a, w.db.hw_fields a =
    if a ∈ w.walked ∧ db.hash_obj_types a = some obj_id then some fields else db.hw_fields a
  is_set : w.is_set = true ↔ ∃ a ∈ w.walked, db.hash_obj_types a = some obj_id
  /-- It comes past all of them, or stops with an error. -/
  ends : (w.walked = attrs ∧ (w.rc = rc ∨ w.rc = .success) ∧
      NpuTakesFields env (fun a => db.hash_obj_types a == some obj_id) fields attrs db.outside_log ∧
      ((∃ a ∈ attrs, db.hash_obj_types a = some obj_id) → w.rc = .success)) ∨
    w.rc ≠ .success

theorem hashFieldsApply_spec (attrs) : ∀ (rc : Status) (db : HashDb),
      FieldsApplied env obj_id fields attrs rc db (hashFieldsApply env obj_id fields attrs rc db) := by
  induction attrs with
  | nil =>
    intro rc db
    refine ⟨.refl db, fun a => by simp [hashFieldsApply], by simp [hashFieldsApply], .inl ?_⟩
    exact ⟨rfl, .inl rfl, trivial, fun ⟨a, ha, _⟩ => absurd ha List.not_mem_nil⟩
  | cons a attrs ih =>
    intro rc db
    simp only [hashFieldsApply]
    by_cases hpoints : db.hash_obj_types a = some obj_id
    · rw [if_pos hpoints]
      have honly := OnlyFields.call db env (.switchHashFieldsSet a fields false)
      have hlog : (db.call env (.switchHashFieldsSet a fields false)).2.outside_log =
          env.outside.log (.switchHashFieldsSet a fields false) db.outside_log := by
        simp only [HashDb.call]
        split <;> rfl
      have hanswer : (db.call env (.switchHashFieldsSet a fields false)).1 =
        env.outside db.outside_log (.switchHashFieldsSet a fields false) := rfl
      have hok := @call_hw_ok env db a fields false
      have hfailed := @call_hw_failed env db a fields false
      generalize db.call _ _ = set at honly hlog hanswer hok hfailed ⊢
      split
      next hfail => exact ⟨honly, fun b => by simp [hfailed hfail], by simp, .inr hfail⟩
      rename_i hgood
      have hgood := not_not.mp hgood
      have hrest := ih set.1 set.2
      generalize hashFieldsApply _ _ _ _ _ _ = w at hrest ⊢
      refine ⟨honly.trans hrest.only, fun b => ?_, ?_, ?_⟩
      · rw [hrest.hw, honly.types, hok hgood]
        by_cases hb : b = a
        · subst hb
          simp [hpoints]
        · simp [hb]
      · simp [hpoints]
      · rcases hrest.ends with ⟨hwalked, hrc, htakes, hall⟩ | hfail
        · refine .inl ⟨by rw [hwalked], ?_, ?_, fun _ => ?_⟩
          · exact .inr (hrc.elim (fun h => h.trans hgood) id)
          · rw [NpuTakesFields, if_pos (by simp [hpoints])]
            refine ⟨hanswer.symm.trans hgood, ?_⟩
            rw [← hlog]
            rw [honly.types] at htakes
            exact htakes
          · exact hrc.elim (fun h => h.trans hgood) id
        · exact .inr hfail
    · rw [if_neg hpoints]
      have hrest := ih rc db
      generalize hashFieldsApply _ _ _ _ _ _ = w at hrest ⊢
      refine ⟨hrest.only, fun b => ?_, ?_, ?_⟩
      · rw [hrest.hw]
        by_cases hb : b = a
        · subst hb
          simp [hpoints]
        · simp [hb]
      · rw [hrest.is_set]
        simp [hpoints]
      · rcases hrest.ends with ⟨hwalked, hrc, htakes, hall⟩ | hfail
        · refine .inl ⟨by rw [hwalked], hrc, ?_, fun ⟨b, hb, hb'⟩ => hall ⟨b, ?_, hb'⟩⟩
          · rw [NpuTakesFields, if_neg (by simp [hpoints])]
            exact htakes
          · refine (List.mem_cons.mp hb).resolve_left ?_
            rintro rfl
            exact hpoints hb'
        · exact .inr hfail

theorem hashFieldsReset_hw (hback : ∀ log a fields, env.outside log (.switchHashFieldsSet a fields true)
    = .success)
    (attrs) : ∀ db : HashDb,
      OnlyFields db (hashFieldsReset env obj_id fields attrs db) ∧
      ∀ a, (hashFieldsReset env obj_id fields attrs db).hw_fields a =
        if a ∈ attrs ∧ db.hash_obj_types a = some obj_id then some fields else db.hw_fields a := by
  induction attrs with
  | nil => exact fun db => ⟨.refl db, fun a => by simp [hashFieldsReset]⟩
  | cons a attrs ih =>
    intro db
    simp only [hashFieldsReset]
    by_cases hpoints : db.hash_obj_types a = some obj_id
    · rw [if_pos hpoints]
      have honly := OnlyFields.call db env (.switchHashFieldsSet a fields true)
      have hok := @call_hw_ok env db a fields true (hback _ a fields)
      obtain ⟨honly', hhw⟩ := ih (db.call env (.switchHashFieldsSet a fields true)).2
      refine ⟨honly.trans honly', fun b => ?_⟩
      rw [hhw, honly.types, hok]
      by_cases hb : b = a
      · subst hb
        simp [hpoints]
      · simp [hb]
    · rw [if_neg hpoints]
      obtain ⟨honly, hhw⟩ := ih db
      refine ⟨honly, fun b => ?_⟩
      rw [hhw]
      by_cases hb : b = a
      · subst hb
        simp [hpoints]
      · simp [hb]

end Loop

/-! ## The invariant -/

/-- Attributes point to objects that are there, are counted by them and have their lists in the NPU. The
lock is free. -/
structure HashInv (db : HashDb) : Prop where
  typed : ∀ o, (db.hash_objs o).isSome = true → o.type = .hash
  live : ∀ a o, db.hash_obj_types a = some o → (db.hash_objs o).isSome = true
  counted : ∀ o obj, db.hash_objs o = some obj → obj.ref_count = db.pointing o
  given : ∀ a, db.hash_obj_types a ≠ none → db.hw_fields a ≠ none
  programmed : ∀ a fields, db.hw_fields a = some fields → fields = db.fieldsOf a
  unlocked : db.locked = false

theorem HashInv.initial : HashInv .initial := by
  refine ⟨fun o h => ?_, fun a o h => ?_, fun o obj h => ?_, fun a h => absurd rfl h,
    fun a fields h => ?_, rfl⟩
  all_goals cases h

section Steps

variable {db : HashDb}

theorem fieldsOf_congr {db' : HashDb} {a : SwitchHashAttr}
    (htypes : db'.hash_obj_types a = db.hash_obj_types a)
    (hobjs : ∀ o, db.hash_obj_types a = some o →
      (db'.hash_objs o).map HashObject.toHashFields = (db.hash_objs o).map HashObject.toHashFields) :
    db'.fieldsOf a = db.fieldsOf a := by
  have helim : ∀ x : Option HashObject, x.elim HashFields.empty HashObject.toHashFields =
      (x.map HashObject.toHashFields).getD .empty := fun x => by cases x <;> rfl
  rw [fieldsOf, fieldsOf, htypes]
  cases hp : db.hash_obj_types a with
  | none => rfl
  | some o => rw [Option.bind_some, Option.bind_some, helim, helim, hobjs o hp]

theorem HashInv.congr {db' : HashDb} (h : HashInv db) (hobjs : db'.hash_objs = db.hash_objs)
    (htypes : db'.hash_obj_types = db.hash_obj_types) (hhw : db'.hw_fields = db.hw_fields)
    (hlocked : db'.locked = db.locked) : HashInv db' := by
  have hpointing : db'.pointing = db.pointing := by
    funext o
    rw [pointing, pointing, htypes]
  refine ⟨fun o ho => h.typed o (hobjs ▸ ho), fun a o ho => ?_, fun o obj ho => ?_, fun a ha => ?_,
    fun a fields ha => ?_, hlocked.trans h.unlocked⟩
  · rw [hobjs]
    exact h.live a o (htypes ▸ ho)
  · rw [hpointing]
    exact h.counted o obj (hobjs ▸ ho)
  · rw [hhw]
    exact h.given a (htypes ▸ ha)
  · rw [fieldsOf_congr (congrFun htypes a) fun o _ => by rw [hobjs]]
    exact h.programmed a _ (hhw ▸ ha)

theorem HashInv.put (h : HashInv db) {obj : HashObject} (hnone : db.hash_objs o = none)
    (htype : o.type = .hash) (href : obj.ref_count = 0) : HashInv (db.putObj o (some obj)) := by
  have hnot : ∀ a, db.hash_obj_types a ≠ some o := by
    intro a heq
    have hlive := h.live a o heq
    rw [hnone] at hlive
    cases hlive
  refine ⟨fun o' ho' => ?_, fun a o' ho' => ?_, fun o' obj' ho' => ?_, h.given, fun a fields ha => ?_,
    h.unlocked⟩
  · simp only [putObj] at ho'
    split at ho'
    next heq =>
      rw [heq]
      exact htype
    · exact h.typed o' ho'
  · simp only [putObj]
    split
    · rfl
    · exact h.live a o' ho'
  · simp only [putObj] at ho'
    split at ho'
    next heq =>
      cases ho'
      rw [heq, href]
      refine (List.countP_eq_zero.mpr fun a _ => ?_).symm
      exact fun heq => hnot a (eq_of_beq heq)
    · exact h.counted o' _ ho'
  · refine (h.programmed a _ ha).trans (@fieldsOf_congr db (db.putObj o (some obj)) a rfl fun o' ho' => ?_).symm
    have hne : o' ≠ o := by
      rintro rfl
      exact hnot a ho'
    simp only [putObj, if_neg hne]

theorem HashInv.drop (h : HashInv db) (hzero : db.pointing o = 0) :
    HashInv (db.putObj o none) := by
  have hnot := pointing_zero hzero
  have hother : ∀ a o', db.hash_obj_types a = some o' → o' ≠ o := fun a o' ho' heq =>
    hnot a (heq ▸ ho')
  refine ⟨fun o' ho' => ?_, fun a o' ho' => ?_, fun o' obj' ho' => ?_, h.given, fun a fields ha => ?_,
    h.unlocked⟩
  · simp only [putObj] at ho'
    split at ho'
    · cases ho'
    · exact h.typed o' ho'
  · simp only [putObj]
    rw [if_neg (hother a o' ho')]
    exact h.live a o' ho'
  · simp only [putObj] at ho'
    split at ho'
    · cases ho'
    · exact h.counted o' _ ho'
  · refine (h.programmed a _ ha).trans (@fieldsOf_congr db (db.putObj o none) a rfl fun o' ho' => ?_).symm
    simp only [putObj, if_neg (hother a o' ho')]

/-- The lists of an object are written once its attributes have them in the NPU. -/
theorem HashInv.store (h : HashInv db) {db₁ : HashDb} {obj obj' : HashObject}
    (hobj : db.hash_objs o = some obj) (href : obj'.ref_count = obj.ref_count) (honly : OnlyFields db db₁)
    (hhw : ∀ a, db₁.hw_fields a =
      if db.hash_obj_types a = some o then some obj'.toHashFields else db.hw_fields a) :
    HashInv (db₁.setObj o fun _ => obj') := by
  have hobjs : ∀ o', (db₁.setObj o fun _ => obj').hash_objs o' =
      if o' = o then some obj' else db.hash_objs o' := by
    intro o'
    simp only [setObj, honly.objs]
    split
    next heq =>
      rw [heq, hobj]
      rfl
    · rfl
  have hpointing : ∀ o', (db₁.setObj o fun _ => obj').pointing o' = db.pointing o' := by
    intro o'
    simp only [pointing, setObj, honly.types]
  refine ⟨fun o' ho' => ?_, fun a o' ho' => ?_, fun o' obj₁ ho' => ?_, fun a ha => ?_,
    fun a fields ha => ?_, honly.locked.trans h.unlocked⟩
  · rw [hobjs] at ho'
    split at ho'
    next heq => exact h.typed o' (by rw [heq, hobj]; rfl)
    · exact h.typed o' ho'
  · rw [hobjs]
    split
    · rfl
    · exact h.live a o' (honly.types ▸ ho')
  · rw [hpointing]
    rw [hobjs] at ho'
    split at ho'
    next heq =>
      cases ho'
      rw [href, heq]
      exact h.counted o obj hobj
    · exact h.counted o' _ ho'
  · show db₁.hw_fields a ≠ none
    rw [hhw]
    split
    · simp
    · exact h.given a (honly.types ▸ ha)
  · have htypes : (db₁.setObj o fun _ => obj').hash_obj_types a = db.hash_obj_types a :=
      congrFun honly.types a
    have ha : db₁.hw_fields a = some fields := ha
    rw [hhw] at ha
    split at ha
    next hpoints =>
      cases ha
      rw [fieldsOf, htypes, hpoints, Option.bind_some, hobjs, if_pos rfl]
      rfl
    rename_i hpoints
    refine (h.programmed a _ ha).trans (fieldsOf_congr htypes fun o' ho' => ?_).symm
    have hne : o' ≠ o := by
      rintro rfl
      exact hpoints ho'
    rw [hobjs, if_neg hne]

end Steps

/-! ## Sets on an object -/

section Set

variable (env : HashEnv) {obj_id : Oid} {obj : HashObject} {attr : HashAttr} {db : HashDb}

theorem hashAttrStore_cases :
    ((hashAttrStore env obj attr).1 ≠ .success ∧ (hashAttrStore env obj attr).2 = obj) ∨
    ((hashAttrStore env obj attr).1 = .success ∧
      (hashAttrStore env obj attr).2.ref_count = obj.ref_count ∧
      (hashAttrStore env obj attr).2.toHashFields = (hashFieldsWith obj attr).getD obj.toHashFields) := by
  cases attr with
  | nativeHashFieldList s32list =>
    simp only [hashAttrStore, hashNativeFieldListSet]
    split
    · exact .inl ⟨by simp, rfl⟩
    · exact .inr ⟨rfl, rfl, rfl⟩
  | udfGroupList objlist =>
    simp only [hashAttrStore, hashUdfGroupListSet]
    split
    · exact .inl ⟨by simp, rfl⟩
    split
    · exact .inl ⟨by simp, rfl⟩
    · exact .inr ⟨rfl, rfl, rfl⟩
  | unknown id => exact .inr ⟨rfl, rfl, rfl⟩

theorem hashAttrStore_ok (hvalid : hashUdfListInvalid env attr = false) (hroom : HashRoom env attr) :
    (hashAttrStore env obj attr).1 = .success := by
  cases attr with
  | nativeHashFieldList s32list =>
    simp only [hashAttrStore, hashNativeFieldListSet]
    rcases hroom with hnil | hroom
    · simp [hnil]
    · simp [hroom]
  | udfGroupList objlist =>
    have hvalid' : hashUdfGroupListValidate env objlist = true := by
      simpa [hashUdfListInvalid] using hvalid
    simp only [hashAttrStore, hashUdfGroupListSet, hvalid']
    rcases hroom with hnil | hroom
    · simp [hnil]
    · simp [hroom]
  | unknown id => rfl

theorem hashAttrSet_one : hashAttrSet env 0 [attr] obj =
    (if (hashAttrStore env obj attr).1 ≠ .success then
      getIndexedRetVal (hashAttrStore env obj attr).1 0 else .success,
      (hashAttrStore env obj attr).2) := by
  simp only [hashAttrSet]
  split <;> rfl

/-- The fields of a new object are counted by nobody. -/
theorem hashAttrSet_ref_count {attr_list} : ∀ (attr_idx : Nat) (obj : HashObject),
    (hashAttrSet env attr_idx attr_list obj).2.ref_count = obj.ref_count := by
  induction attr_list with
  | nil => exact fun _ _ => rfl
  | cons attr attr_list ih =>
    intro attr_idx obj
    have hone : (hashAttrStore env obj attr).2.ref_count = obj.ref_count := by
      rcases @hashAttrStore_cases env obj attr with ⟨-, hsame⟩ | ⟨-, href, -⟩
      · rw [hsame]
      · exact href
    simp only [hashAttrSet]
    split
    · exact hone
    · exact (ih _ _).trans hone

/-- **The NPU is given the fields of an object that is used**, or has what it had. -/
theorem hashObjSetInHw_cases (h : HashInv db) (hobj : db.hash_objs obj_id = some obj)
    (hback : ∀ log a fields, env.outside log (.switchHashFieldsSet a fields true) = .success) :
    let x := hashObjSetInHw env obj_id obj attr db
    OnlyFields db x.2 ∧
    ((x.1 ≠ .success ∧ x.2.hw_fields = db.hw_fields) ∨
      (x.1 = .success ∧ ∃ fields, hashFieldsWith obj attr = some fields ∧
        NpuTakesFields env (fun a => db.hash_obj_types a == some obj_id) fields SwitchHashAttr.all
          db.outside_log ∧
        ∀ a, x.2.hw_fields a =
          if db.hash_obj_types a = some obj_id then some fields else db.hw_fields a)) := by
  intro x
  have hx : hashObjSetInHw env obj_id obj attr db = x := rfl
  clear_value x
  simp only [hashObjSetInHw] at hx
  split at hx
  · subst hx
    exact ⟨.refl db, .inl ⟨by simp, rfl⟩⟩
  rename_i fields hfields
  have hspec := hashFieldsApply_spec env obj_id fields SwitchHashAttr.all env.unset_status db
  generalize hashFieldsApply _ _ _ _ _ _ = w at hx hspec
  -- What an attribute of the object has in the NPU are the lists of the object.
  have hold : ∀ a, db.hash_obj_types a = some obj_id →
      db.hw_fields a = some obj.toHashFields := by
    intro a hpoints
    obtain ⟨given, hgiven⟩ := Option.ne_none_iff_exists'.mp (h.given a (by rw [hpoints]; simp))
    rw [hgiven, h.programmed a given hgiven, fieldsOf, hpoints, Option.bind_some, hobj]
    rfl
  split at hx
  next hok =>
    subst hx
    refine ⟨hspec.only, .inr ⟨hok, fields, hfields, ?_⟩⟩
    rcases hspec.ends with ⟨hwalked, -, htakes, -⟩ | hfail
    · refine ⟨htakes, fun a => ?_⟩
      rw [hspec.hw, hwalked]
      simp [mem_switchHashAttrs]
    · exact absurd hok hfail
  next hfail =>
    obtain ⟨honly', hhw⟩ := hashFieldsReset_hw env obj_id obj.toHashFields hback w.walked w.db
    subst hx
    have hsame : ∀ a, db.hw_fields a =
        if a ∈ w.walked ∧ db.hash_obj_types a = some obj_id then some obj.toHashFields
        else w.db.hw_fields a := by
      intro a
      split
      next ha => exact hold a ha.2
      next ha => rw [hspec.hw, if_neg ha]
    show OnlyFields db (if w.is_set = true then _ else w.db) ∧ _
    split
    · refine ⟨hspec.only.trans honly', .inl ⟨hfail, funext fun a => ?_⟩⟩
      rw [hhw, hspec.only.types]
      exact (hsame a).symm
    rename_i hnone
    refine ⟨hspec.only, .inl ⟨hfail, funext fun a => ?_⟩⟩
    rw [hspec.hw, if_neg]
    exact fun ha => hnone (hspec.is_set.mpr ⟨a, ha.1, ha.2⟩)

/-- **A set on an object** keeps the invariant, and leaves all where it fails. -/
theorem hashObjSetAttr_leaves (h : HashInv db)
    (hback : ∀ log a fields, env.outside log (.switchHashFieldsSet a fields true) = .success)
    (hfits : HashSetFits env obj_id attr db) :
    ∃ x, hashObjSetAttr env obj_id attr db = some x ∧ HashInv x.2 ∧
      (x.1 ≠ .success → HashSame db x.2) := by
  have hsame : HashSame db db := ⟨rfl, rfl, rfl⟩
  simp only [hashObjSetAttr]
  split
  · exact ⟨_, rfl, h, fun _ => hsame⟩
  split
  · exact ⟨_, rfl, h, fun _ => hsame⟩
  rename_i hvalid
  have hgroups := hfits.groups (not_not.mp hvalid)
  rw [if_neg (by rw [h.unlocked]; simp)]
  cases hobj : db.hash_objs obj_id with
  | none => exact ⟨_, rfl, h, fun _ => hsame⟩
  | some obj =>
    have hgroups := hgroups (by rw [hobj]; rfl)
    simp only [hgroups, Bool.false_eq_true, if_false]
    -- The set on the node, after the NPU.
    have hstore : ∀ db₁ : HashDb, OnlyFields db db₁ → (hashAttrStore env obj attr).1 = .success →
        (∀ a, db₁.hw_fields a = if db.hash_obj_types a = some obj_id then
          some ((hashFieldsWith obj attr).getD obj.toHashFields) else db.hw_fields a) →
        HashInv (db₁.setObj obj_id fun _ => (hashAttrSet env 0 [attr] obj).2) := by
      intro db₁ honly hok hhw
      rcases @hashAttrStore_cases env obj attr with ⟨hfail, -⟩ | ⟨-, href, hlists⟩
      · exact absurd hok hfail
      rw [hashAttrSet_one]
      refine h.store hobj href honly fun a => ?_
      rw [hhw, hlists]
    by_cases hused : obj.ref_count > 0
    · rw [if_pos hused]
      obtain ⟨honly, hcases⟩ := @hashObjSetInHw_cases env obj_id obj attr db h hobj hback
      generalize hashObjSetInHw _ _ _ _ _ = set at honly hcases ⊢
      rcases hcases with ⟨hfail, hhw⟩ | ⟨hok, fields, hfields, htakes, hhw⟩
      · rw [if_pos hfail]
        exact ⟨_, rfl, h.congr honly.objs honly.types hhw honly.locked,
          fun _ => ⟨honly.objs, honly.types, hhw⟩⟩
      rw [if_ok hok]
      have hroom := hfits.room obj fields hobj hused hfields htakes
      have hok' : (hashAttrStore env obj attr).1 = .success := hashAttrStore_ok env hgroups hroom
      refine ⟨_, rfl, hstore set.2 honly hok' ?_, fun hfail => ?_⟩
      · rw [hfields]
        exact hhw
      · refine absurd ?_ hfail
        simp only [hashAttrSet_one]
        rw [if_ok hok']
    · -- No attribute points to the object.
      rw [if_neg hused, if_neg (by simp)]
      have hzero : db.pointing obj_id = 0 := by
        have := h.counted obj_id obj hobj
        omega
      have hnot := pointing_zero hzero
      refine ⟨_, rfl, ?_, fun hfail => ?_⟩
      · rcases @hashAttrStore_cases env obj attr with ⟨-, hobj'⟩ | ⟨hok, -⟩
        · rw [hashAttrSet_one]
          refine h.store hobj (by rw [hobj']) (.refl db) fun a => ?_
          rw [if_neg (hnot a)]
        · refine hstore db (.refl db) hok fun a => ?_
          rw [if_neg (hnot a)]
      · rcases @hashAttrStore_cases env obj attr with ⟨-, hobj'⟩ | ⟨hok, -⟩
        · refine ⟨funext fun o => ?_, rfl, rfl⟩
          simp only [setObj, hashAttrSet_one, hobj']
          split
          next heq =>
            rw [heq, hobj]
            rfl
          · rfl
        · refine absurd ?_ hfail
          simp only [hashAttrSet_one]
          rw [if_ok hok]

end Set

/-! ## Sets on the switch -/

/-- An attribute of the switch points elsewhere: the NPU has the lists of the new object, and both objects
count. -/
structure SwitchMoved (a : SwitchHashAttr) (new : Option Oid) (db db' : HashDb) : Prop where
  types : ∀ b, db'.hash_obj_types b = if b = a then new else db.hash_obj_types b
  objs : ∀ o, db'.hash_objs o = (db.hash_objs o).map fun obj =>
    { obj with ref_count :=
        obj.ref_count - (db.hash_obj_types a == some o).toNat + (new == some o).toNat }
  hw : ∀ b, db'.hw_fields b =
    if b = a then some ((new.bind db.hash_objs).elim .empty HashObject.toHashFields)
    else db.hw_fields b
  locked : db'.locked = db.locked

structure OnlyCounts (db db' : HashDb) : Prop where
  types : db'.hash_obj_types = db.hash_obj_types
  hw : db'.hw_fields = db.hw_fields
  locked : db'.locked = db.locked

section Switch

variable {db : HashDb}

theorem HashInv.moved (h : HashInv db) {db' : HashDb} {a : SwitchHashAttr} {new : Option Oid}
    (hnew : ∀ o, new = some o → (db.hash_objs o).isSome = true) (hmoved : SwitchMoved a new db db') :
    HashInv db' := by
  have hsome : ∀ o, (db'.hash_objs o).isSome = (db.hash_objs o).isSome := by
    intro o
    rw [hmoved.objs, Option.isSome_map]
  have hlists : ∀ o, (db'.hash_objs o).map HashObject.toHashFields =
      (db.hash_objs o).map HashObject.toHashFields := by
    intro o
    rw [hmoved.objs, Option.map_map]
    rfl
  refine ⟨fun o ho => h.typed o (hsome o ▸ ho), fun b o hb => ?_, fun o obj ho => ?_, fun b hb => ?_,
    fun b fields hb => ?_, hmoved.locked.trans h.unlocked⟩
  · rw [hsome]
    rw [hmoved.types] at hb
    split at hb
    · exact hnew o hb
    · exact h.live b o hb
  · rw [hmoved.objs] at ho
    obtain ⟨old, hold, rfl⟩ := Option.map_eq_some_iff.mp ho
    have hcount := pointing_setHashObj hmoved.types o
    have hold := h.counted o old hold
    have hle : (db.hash_obj_types a == some o).toNat ≤ db.pointing o := by
      by_cases hp : db.hash_obj_types a = some o
      · have := pointing_pos hp
        rw [hp, beq_self_eq_true, Bool.toNat_true]
        omega
      · rw [beq_eq_false_iff_ne.mpr hp]
        exact Nat.zero_le _
    show old.ref_count - _ + _ = _
    omega
  · rw [hmoved.hw]
    rw [hmoved.types] at hb
    split
    · simp
    rename_i hne
    rw [if_neg hne] at hb
    exact h.given b hb
  · rw [hmoved.hw] at hb
    split at hb
    next heq =>
      cases hb
      have helim : ∀ x : Option HashObject, x.elim HashFields.empty HashObject.toHashFields =
          (x.map HashObject.toHashFields).getD .empty := fun x => by cases x <;> rfl
      rw [fieldsOf, hmoved.types, if_pos heq]
      cases new with
      | none => rfl
      | some o => rw [Option.bind_some, Option.bind_some, helim, helim, hlists]
    next hne =>
      refine (h.programmed b _ hb).trans (fieldsOf_congr ?_ fun o _ => hlists o).symm
      rw [hmoved.types, if_neg hne]

theorem switchHashAttrSet_leaves (env) (a) {obj_id} (h : HashInv db)
    (hfits : obj_id ≠ .null → obj_id.type = .hash) :
    ∃ x, switchHashAttrSet env a obj_id db = some x ∧ HashInv x.2 ∧
      (x.1 ≠ .success → HashSame db x.2) := by
  have hsame : HashSame db db := ⟨rfl, rfl, rfl⟩
  simp only [switchHashAttrSet]
  rw [if_neg (by rw [h.unlocked]; simp), if_neg (fun hbad => hbad.2 (hfits hbad.1))]
  split
  · exact ⟨_, rfl, h, fun _ => hsame⟩
  rename_i hthere
  generalize hnew : (if obj_id ≠ Oid.null then some obj_id else none) = new
  have hlive : ∀ o, new = some o → (db.hash_objs o).isSome = true := by
    intro o ho
    rw [← hnew] at ho
    split at ho
    next hne =>
      cases ho
      cases hs : (db.hash_objs obj_id).isSome with
      | true => rfl
      | false => exact absurd ⟨hne, hs⟩ hthere
    · cases ho
  have hfields : (if obj_id ≠ Oid.null then
      (db.hash_objs obj_id).elim HashFields.empty HashObject.toHashFields else .empty) =
        (new.bind db.hash_objs).elim .empty HashObject.toHashFields := by
    rw [← hnew]
    split <;> rfl
  rw [hfields]
  generalize hgiven : (new.bind db.hash_objs).elim _ _ = fields
  have honly := OnlyFields.call db env (.switchHashFieldsSet a fields false)
  have hok := @call_hw_ok env db a fields false
  have hfailed := @call_hw_failed env db a fields false
  generalize db.call _ _ = set at honly hok hfailed ⊢
  split
  next hfail =>
    refine ⟨_, rfl, h.congr honly.objs honly.types (hfailed hfail) honly.locked, fun _ => ?_⟩
    exact ⟨honly.objs, honly.types, hfailed hfail⟩
  rename_i hgood
  have hgood := not_not.mp hgood
  -- The object that the attribute pointed to counts one less.
  generalize hleft : switchHashObjLeave a _ = left
  have hcounts : OnlyCounts set.2 left ∧ ∀ o, left.hash_objs o = (db.hash_objs o).map fun obj =>
      { obj with ref_count := obj.ref_count - (db.hash_obj_types a == some o).toNat } := by
    simp only [switchHashObjLeave, honly.types] at hleft
    subst hleft
    cases hold : db.hash_obj_types a with
    | none =>
      refine ⟨⟨rfl, rfl, rfl⟩, fun o => ?_⟩
      show set.2.hash_objs o = _
      rw [honly.objs]
      exact Option.map_id'.symm
    | some old =>
      refine ⟨⟨rfl, rfl, rfl⟩, fun o => ?_⟩
      show (if o = old then (set.2.hash_objs o).map _ else set.2.hash_objs o) = _
      rw [honly.objs]
      split
      next heq =>
        rw [heq, beq_self_eq_true]
        rfl
      rename_i hne
      have hne' : (some old == some o) = false :=
        beq_eq_false_iff_ne.mpr fun heq => hne (Option.some.inj heq).symm
      rw [hne']
      exact Option.map_id'.symm
  clear hleft
  obtain ⟨⟨htypes, hhw, hlocked⟩, hobjs⟩ := hcounts
  have hmoved : SwitchMoved a new db (if obj_id ≠ Oid.null then
      (left.setHashObj a new).setObj obj_id fun obj => { obj with ref_count := obj.ref_count + 1 }
      else left.setHashObj a new) := by
    have htypes' : ∀ b, (left.setHashObj a new).hash_obj_types b =
        if b = a then new else db.hash_obj_types b := by
      intro b
      show (if b = a then new else left.hash_obj_types b) = _
      rw [htypes, honly.types]
    have hhw' : ∀ b, (left.setHashObj a new).hw_fields b =
        if b = a then some ((new.bind db.hash_objs).elim .empty HashObject.toHashFields)
        else db.hw_fields b := by
      intro b
      show left.hw_fields b = _
      rw [hhw, hok hgood, hgiven]
    have hlocked' : (left.setHashObj a new).locked = db.locked := hlocked.trans honly.locked
    by_cases hnull : obj_id = .null
    · rw [if_ok hnull] at hnew ⊢
      subst hnew
      exact ⟨htypes', fun o => hobjs o, hhw', hlocked'⟩
    rw [if_pos hnull] at hnew ⊢
    subst hnew
    refine ⟨htypes', fun o => ?_, hhw', hlocked'⟩
    show (if o = obj_id then (left.hash_objs o).map _ else left.hash_objs o) = _
    rw [hobjs]
    split
    next heq =>
      rw [heq, beq_self_eq_true, Option.map_map]
      rfl
    rename_i hne
    have hne' : (some obj_id == some o) = false :=
      beq_eq_false_iff_ne.mpr fun heq => hne (Option.some.inj heq).symm
    rw [hne']
    rfl
  exact ⟨_, rfl, h.moved hlive hmoved, fun hfail => absurd rfl hfail⟩

end Switch

/-! ## Create and remove -/

section Create

variable (max_hash_index : Nat) {db : HashDb}

variable (env : HashEnv) (attr_list : List HashAttr)

theorem HashInv.setIndex (h : HashInv db) {index : Nat} {free : Bool} :
    HashInv (db.setIndex index free) :=
  h.congr rfl rfl rfl rfl

theorem hashObjFill_leaves {hash_index : Nat} (h : HashInv db) :
    HashInv (hashObjFill env attr_list hash_index db).2 ∧
      ((hashObjFill env attr_list hash_index db).1 ≠ .success →
        HashSame db (hashObjFill env attr_list hash_index db).2) := by
  have hcall : HashInv (db.call env (.insert (hashObjId hash_index))).2 := h.congr rfl rfl rfl rfl
  simp only [hashObjFill]
  split
  · exact ⟨h, fun _ => ⟨rfl, rfl, rfl⟩⟩
  split
  · exact ⟨hcall, fun hfail => absurd rfl hfail⟩
  rename_i hnew
  refine ⟨hcall.put ?_ rfl (hashAttrSet_ref_count env 0 _), fun hfail => absurd rfl hfail⟩
  cases hthere : (db.call env (.insert (hashObjId hash_index))).2.hash_objs (hashObjId hash_index) with
  | none => rfl
  | some obj => exact absurd (.inr (by rw [hthere]; rfl)) hnew

theorem hashObjChoose_leaves (h : HashInv db) :
    HashInv (hashObjChoose max_hash_index env attr_list db).2 ∧
      HashSame db (hashObjChoose max_hash_index env attr_list db).2 := by
  have hsame : HashSame db db := ⟨rfl, rfl, rfl⟩
  have hcall : HashInv (db.call env .nodeAlloc).2 := h.congr rfl rfl rfl rfl
  simp only [hashObjChoose]
  split
  · exact ⟨h, hsame⟩
  split
  · exact ⟨h, hsame⟩
  split
  · exact ⟨hcall, rfl, rfl, rfl⟩
  · exact ⟨hcall, rfl, rfl, rfl⟩

theorem hashObjCreate_leaves (h : HashInv db) :
    ∃ x, hashObjCreate max_hash_index env attr_list db = some x ∧ HashInv x.2.2 ∧
      (x.1 ≠ .success → HashSame db x.2.2) := by
  obtain ⟨hinv, hsame⟩ := hashObjChoose_leaves _ env _ h
  simp only [hashObjCreate]
  generalize hashObjChoose _ _ _ _ = chosen at hinv hsame ⊢
  obtain ⟨rc | hash_index, db₁⟩ := chosen
  · exact ⟨_, rfl, hinv, fun _ => hsame⟩
  obtain ⟨hfilled, hkeeps⟩ := hashObjFill_leaves env _ hinv
  show ∃ x, (if db₁.locked = true then none else _) = some x ∧ _
  rw [if_neg (by rw [hinv.unlocked]; simp)]
  generalize hashObjFill _ _ _ _ = filled at hfilled hkeeps ⊢
  split
  next hfail =>
    obtain ⟨hobjs, htypes, hhw⟩ := hkeeps hfail
    exact ⟨_, rfl, hfilled,
      fun _ => ⟨hobjs.trans hsame.objs, htypes.trans hsame.types, hhw.trans hsame.hw⟩⟩
  next hok => exact ⟨_, rfl, hfilled.setIndex, fun hfail => absurd hfail hok⟩

theorem hashObjRemove_leaves (hash_obj_id) (h : HashInv db) :
    ∃ x, hashObjRemove hash_obj_id db = some x ∧ HashInv x.2 ∧
      (x.1 ≠ .success → HashSame db x.2) ∧
      ((db.hash_objs hash_obj_id).isSome = true →
        (x.1 = .success ↔ db.pointing hash_obj_id = 0)) := by
  have hsame : HashSame db db := ⟨rfl, rfl, rfl⟩
  simp only [hashObjRemove]
  split
  next htype => exact ⟨_, rfl, h, fun _ => hsame, fun hsome => absurd (h.typed _ hsome) htype⟩
  rw [if_neg (by rw [h.unlocked]; simp)]
  cases hobj : db.hash_objs hash_obj_id with
  | none => exact ⟨_, rfl, h, fun _ => hsame, fun hsome => nomatch hsome⟩
  | some obj =>
    have hcounted := h.counted _ obj hobj
    dsimp only
    split
    next hused =>
      exact ⟨_, rfl, h, fun _ => hsame, fun _ => ⟨fun heq => (nomatch heq), fun hzero => by omega⟩⟩
    rename_i hfree
    have hzero : db.pointing hash_obj_id = 0 := by omega
    exact ⟨_, rfl, (h.drop hzero).setIndex, fun hfail => absurd rfl hfail,
      fun _ => ⟨fun _ => hzero, fun _ => rfl⟩⟩

end Create

/-! ## Runs -/

section Runs

variable (max_hash_index : Nat) {db : HashDb}

theorem hashExec_leaves (op) (h : HashInv db) (hfits : HashOpFits op db) :
    ∃ x, hashExec max_hash_index op db = some x ∧ HashInv x.2 ∧
      (x.1 ≠ .success → HashSame db x.2) := by
  cases op with
  | create env attr_list =>
    obtain ⟨x, hx, hinv, hsame⟩ := hashObjCreate_leaves _ env _ h
    exact ⟨(x.1, x.2.2), by rw [hashExec, hx]; rfl, hinv, hsame⟩
  | remove hash_obj_id =>
    obtain ⟨x, hx, hinv, hsame, -⟩ := hashObjRemove_leaves _ h
    exact ⟨x, hx, hinv, hsame⟩
  | setAttr env hash_obj_id attr => exact hashObjSetAttr_leaves env h hfits.1 hfits.2
  | switchSet env attr_id hash_obj_id => exact switchHashAttrSet_leaves env attr_id h hfits

theorem HashInv.agrees (h : HashInv db) : HashAgrees max_hash_index db where
  programmed := h.programmed
  given := h.given
  counted := h.counted
  removable := fun hash_obj_id hsome => by
    obtain ⟨x, hx, -, -, hiff⟩ := hashObjRemove_leaves hash_obj_id h
    rw [hx, ← hiff hsome]
    refine ⟨fun ⟨db', heq⟩ => ?_, fun hok => ⟨x.2, ?_⟩⟩
    · rw [Option.some.inj heq]
    · rw [← hok]
  unchanged := fun op hfits rc db' heq hfail => by
    obtain ⟨x, hx, -, hsame⟩ := hashExec_leaves max_hash_index op h hfits
    obtain rfl := Option.some.inj (hx.symm.trans heq)
    exact hsame hfail

/-- **Hash attributes, objects and the NPU agree**, in every run of calls that keep their promise. -/
theorem hashAgrees_of_run (hrun : Run (hashStep max_hash_index) HashOpFits .initial db) :
    HashAgrees max_hash_index db := by
  refine HashInv.agrees _ (hrun.induct (fun op db h hfits => ?_) HashInv.initial)
  obtain ⟨x, hx, hinv, -⟩ := hashExec_leaves _ op h hfits
  rw [hashStep, hx]
  exact hinv

end Runs

theorem hashAgrees_of_run_twoAttrs :
    HashAgrees 2 (hashStep 2 (.setAttr .good (hashObjId 0) (.nativeHashFieldList [7]))
      (hashStep 2 (.switchSet .good .lagHash (hashObjId 0))
        (hashStep 2 (.switchSet .good .ecmpHash (hashObjId 0))
          (hashStep 2 (.create .good [.nativeHashFieldList [1, 2]]) .initial)))) := by
  have hcreate : Run (hashStep 2) HashOpFits .initial _ :=
    .one (.create .good [.nativeHashFieldList [1, 2]]) (by trivial)
  have hecmp := hcreate.snoc (.switchSet .good .ecmpHash (hashObjId 0)) (by exact fun _ => rfl)
  have hlag := hecmp.snoc (.switchSet .good .lagHash (hashObjId 0)) (by exact fun _ => rfl)
  refine hashAgrees_of_run 2 (hlag.snoc _ ⟨fun _ _ _ => rfl, ?_⟩)
  exact ⟨fun _ _ => rfl, fun _ _ _ _ _ _ => .inr rfl⟩

def HashBacksSucceed : HashOp → HashDb → Prop
  | .setAttr env _ _, _ => ∀ log a fields, env.outside log (.switchHashFieldsSet a fields true) = .success
  | _, _ => True

/-- There is no room for the list of an object that is used: the NPU has the new fields, and the object
the old ones. -/
theorem not_hashAgrees : ¬ ∀ (max_hash_index : Nat) (db : HashDb),
    Run (hashStep max_hash_index) HashBacksSucceed .initial db → HashAgrees max_hash_index db := by
  intro h
  have hcreate : Run (hashStep 2) HashBacksSucceed .initial _ :=
    .one (.create .good [.nativeHashFieldList [1, 2]]) (by trivial)
  have hecmp := hcreate.snoc (.switchSet .good .ecmpHash (hashObjId 0)) (by trivial)
  have hset := hecmp.snoc (.setAttr { HashEnv.good with native_list_alloc := fun _ => false } (hashObjId 0)
    (.nativeHashFieldList [7])) (by exact fun _ _ _ => rfl)
  have hsame := (h 2 _ hset).programmed .ecmpHash ⟨[7], []⟩ rfl
  revert hsame
  decide

end OpxSai
