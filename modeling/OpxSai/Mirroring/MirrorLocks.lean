import OpxSai.Hash.HashAgree
import OpxSai.Lib.Run
import OpxSai.Mirroring.Mirror

/-!
# The locks of hash objects and mirror sessions

A call gives back the lock that it takes on every way out, but for three: a set of UDF groups that are not
valid on a hash object, a hash attribute of the switch that is set to an object of another type, and the
question whether a mirror session is there when it is not. A call that comes to the hash lock after that
waits for ever, and has no way out.

* `hashMirrorLocksBalanced_iff` — the one holds exactly under the other.
-/

namespace OpxSai

open HashDb MirrorDb

/-! ## The hash module -/

/-- `dn_sai_hash_attr_get`, from an index on. The lists that are asked for are as long as the room that
there is for them. -/
def hashAttrGet (obj : HashObject) : Nat → List HashAttr → Except Status (List HashAttr)
  | _, [] => .ok []
  | attr_idx, attr :: attr_list =>
    let got (room : Nat) (count : Nat) (value : HashAttr) : Except Status (List HashAttr) :=
      if room < count then .error (getIndexedRetVal .bufferOverflow attr_idx)
      else (hashAttrGet obj (attr_idx + 1) attr_list).map (value :: ·)
    match attr with
    | .nativeHashFieldList s32list =>
      got s32list.length obj.native_fields_list.length (.nativeHashFieldList obj.native_fields_list)
    | .udfGroupList objlist =>
      got objlist.length obj.udf_group_list.length (.udfGroupList obj.udf_group_list)
    | .unknown id => got 0 0 (.unknown id)

/-- `dn_sai_hash_obj_get_attr` -/
def hashObjGetAttr (env : HashEnv) (hash_obj_id : Oid) (attr_list : List HashAttr) (db : HashDb) :
    Option (Except Status (List HashAttr)) :=
  if hash_obj_id.type ≠ .hash then some (.error .invalidObjectType)
  else if env.validate attr_list ≠ .success then some (.error (env.validate attr_list))
  else if db.locked = true then none
  else some ((db.hash_objs hash_obj_id).elim (.error .invalidObjectId) fun obj => hashAttrGet obj 0 attr_list)

/-- `dn_sai_switch_hash_attr_get` -/
def switchHashAttrGet (attr_id : SwitchHashAttr) (db : HashDb) : Option Oid :=
  if db.locked = true then none else some ((db.hash_obj_types attr_id).getD .null)

inductive HashLockOp where
  | op (op : HashOp)
  | getAttr (env : HashEnv) (hash_obj_id : Oid) (attr_list : List HashAttr)
  | switchGet (attr_id : SwitchHashAttr)

/-- What a call leaves; a call that waits for ever is `none`. -/
def hashLockExec (max_hash_index : Nat) : HashLockOp → HashDb → Option HashDb
  | .op op, db => (hashExec max_hash_index op db).map Prod.snd
  | .getAttr env hash_obj_id attr_list, db =>
    (hashObjGetAttr env hash_obj_id attr_list db).map fun _ => db
  | .switchGet attr_id, db => (switchHashAttrGet attr_id db).map fun _ => db

/-- `dn_sai_hash_lock` and `dn_sai_hash_unlock` on the way that a call takes through the module. -/
def hashLockAfter (max_hash_index : Nat) : HashLockOp → HashDb → LockDepth → LockDepth
  | .op (.create env attr_list), db, l =>
    match (hashObjChoose max_hash_index env attr_list db).1 with
    | .error _ => l
    | .ok _ => l.lock.unlock
  | .op (.remove hash_obj_id), _, l => if hash_obj_id.type ≠ .hash then l else l.lock.unlock
  | .op (.setAttr env hash_obj_id attr), db, l =>
    if hash_obj_id.type ≠ .hash then l
    else if env.validate [attr] ≠ .success then l
    -- the groups are looked at once the object is found, and they are refused by a return
    else if (db.hash_objs hash_obj_id).isSome = true ∧ hashUdfListInvalid env attr = true then l.lock
    else l.lock.unlock
  | .op (.switchSet _ _ hash_obj_id), _, l =>
    -- the type is refused by a return out of the loop
    if hash_obj_id ≠ .null ∧ hash_obj_id.type ≠ .hash then l.lock else l.lock.unlock
  | .getAttr env hash_obj_id attr_list, _, l =>
    if hash_obj_id.type ≠ .hash then l
    else if env.validate attr_list ≠ .success then l
    else l.lock.unlock
  | .switchGet _, _, l => l.lock.unlock

/-! ## Both modules -/

structure HashMirrorDb where
  hash : HashDb
  hash_lock : LockDepth
  mirror : MirrorDb

inductive HashMirrorCall where
  | hash (op : HashLockOp)
  | mirror (op : MirrorOp)

def hashMirrorExit (max_hash_index : Nat) (c : HashMirrorCall) (db : HashMirrorDb) :
    Option HashMirrorDb :=
  match c with
  | .hash op => (hashLockExec max_hash_index op db.hash).map fun hash =>
    { db with hash := hash, hash_lock := hashLockAfter max_hash_index op db.hash db.hash_lock }
  | .mirror op => some { db with mirror := (mirrorExec op db.mirror).2 }

def hashMirrorStep (max_hash_index : Nat) (c : HashMirrorCall) (db : HashMirrorDb) : HashMirrorDb :=
  (hashMirrorExit max_hash_index c db).getD db

/-- The depth of each lock is what it was, and it has not been below zero on the way. -/
structure HashMirrorLocksBalanced (db db' : HashMirrorDb) : Prop where
  hash : db'.hash_lock = db.hash_lock
  mirror : db'.mirror.mirror_lock = db.mirror.mirror_lock

/-- The condition on a call: it does not set UDF groups that are not valid on a hash object, it does not set
a hash attribute of the switch to an object that is no hash object, and it does not ask for a mirror
session that is not there. -/
def HashMirrorCall.LocksOk (c : HashMirrorCall) (db : HashMirrorDb) : Prop :=
  match c with
  | .hash (.op (.setAttr env hash_obj_id attr)) =>
    hash_obj_id.type = .hash → env.validate [attr] = .success → db.hash.locked = false →
      (db.hash.hash_objs hash_obj_id).isSome = true → hashUdfListInvalid env attr = false
  | .hash (.op (.switchSet _ _ hash_obj_id)) =>
    db.hash.locked = false → hash_obj_id = .null ∨ hash_obj_id.type = .hash
  | .mirror (.isValid session_id) => (db.mirror.mirror_sessions_tree session_id).isSome = true
  | _ => True

/-! ## The mirror lock -/

section Mirror

variable {db : MirrorDb} {env : MirrorEnv}

theorem mirrorCall_lock (db : MirrorDb) (env : MirrorEnv) (c : MirrorCall) :
    (db.call env c).2.mirror_lock = db.mirror_lock := by
  cases c with
  | sessionCreate info session_id | sessionDestroy session_id =>
    simp only [MirrorDb.call]
    split <;> rfl
  | _ => rfl

theorem mirrorAttrWalk_lock (attr_list : List MirrorAttr) : ∀ (attr_index : Nat)
    (req_attributes : List MirrorAttrId) (info : MirrorSession) (db : MirrorDb),
    (mirrorAttrWalk env attr_index attr_list req_attributes info db).db.mirror_lock = db.mirror_lock := by
  induction attr_list with
  | nil => exact fun _ _ _ _ => rfl
  | cons attr attr_list ih =>
    intro attr_index req_attributes info db
    simp only [mirrorAttrWalk]
    split
    · rfl
    have hvalid := mirrorCall_lock db env (.attribsValidate info.session_id attr attr_index)
    split
    · exact hvalid
    · exact (ih ..).trans hvalid

theorem mirrorSessionRegister_lock (info : MirrorSession) (db : MirrorDb) :
    (mirrorSessionRegister env info db).2.2.mirror_lock = db.mirror_lock := by
  simp only [mirrorSessionRegister]
  split
  · simp only [mirrorCall_lock]
  split
  · simp only [mirrorCall_lock]
  split
  · simp only [mirrorCall_lock, putSession]
  · simp only [mirrorCall_lock, putSession]

theorem mirrorSessionCreate_lock {env} {attr_list}
    (h : db.mirror_lock.Valid) :
    (mirrorSessionCreate env attr_list db).2.2.mirror_lock = db.mirror_lock := by
  have hlocked : (mirrorSessionCreateLocked env attr_list db.lock).2.2.mirror_lock =
      db.mirror_lock.lock := by
    have halloc : (db.lock.call env .nodeAlloc).2.mirror_lock = db.mirror_lock.lock :=
      mirrorCall_lock ..
    have hwalk := @mirrorAttrWalk_lock env attr_list 0 [] .zero (db.lock.call env .nodeAlloc).2
    simp only [mirrorSessionCreateLocked]
    split
    · exact halloc
    split
    · exact hwalk.trans halloc
    split
    · exact hwalk.trans halloc
    · exact (mirrorSessionRegister_lock ..).trans (hwalk.trans halloc)
  show (mirrorSessionCreateLocked env attr_list db.lock).2.2.mirror_lock.unlock = _
  rw [hlocked, LockDepth.unlock_lock h]

theorem mirrorSessionLocked_lock {session_id} {body : MirrorSession → MirrorDb → Status × MirrorDb}
    (hbody : ∀ info db, (body info db).2.mirror_lock = db.mirror_lock) (h : db.mirror_lock.Valid) :
    (mirrorSessionLocked session_id body db).2.mirror_lock = db.mirror_lock := by
  simp only [mirrorSessionLocked]
  split
  · rfl
  have hlocked : ((db.lock.mirror_sessions_tree session_id).elim (.invalidObjectId, db.lock)
      fun info => body info db.lock).2.mirror_lock = db.mirror_lock.lock := by
    cases db.lock.mirror_sessions_tree session_id with
    | none => rfl
    | some info => exact hbody info db.lock
  show LockDepth.unlock _ = _
  rw [hlocked, LockDepth.unlock_lock h]

theorem mirrorSourceLocked_lock {session_id port_id}
    {body : List (Oid × MirrorDirection) → MirrorSession → MirrorDb → Status × MirrorDb}
    (hbody : ∀ sources info db, (body sources info db).2.mirror_lock = db.mirror_lock)
    (h : db.mirror_lock.Valid) :
    (mirrorSourceLocked env session_id port_id body db).2.mirror_lock = db.mirror_lock := by
  simp only [mirrorSourceLocked]
  split
  · rfl
  split
  · exact LockDepth.unlock_lock h
  refine mirrorSessionLocked_lock (fun info db => ?_) h
  cases info.source_ports_tree with
  | none => rfl
  | some sources => exact hbody sources info db

theorem mirrorExec_lock (op : MirrorOp) (h : db.mirror_lock.Valid) :
    (mirrorExec op db).2.mirror_lock = db.mirror_lock ∨
      ∃ session_id, op = .isValid session_id ∧ db.mirror_sessions_tree session_id = none ∧
        (mirrorExec op db).2.mirror_lock = db.mirror_lock.lock := by
  cases op with
  | create env attr_list => exact .inl (mirrorSessionCreate_lock h)
  | remove env session_id =>
    refine .inl (mirrorSessionLocked_lock (fun info db => ?_) h)
    split
    · rfl
    dsimp only
    split
    · exact mirrorCall_lock ..
    · exact mirrorCall_lock ..
  | set env session_id attr =>
    refine .inl (mirrorSessionLocked_lock (fun info db => ?_) h)
    dsimp only
    split
    · rfl
    split
    · exact mirrorCall_lock ..
    · exact mirrorCall_lock ..
  | get env session_id attr_list =>
    exact .inl (mirrorSessionLocked_lock (fun _ _ => mirrorCall_lock ..) h)
  | portAdd env session_id port_id direction =>
    refine .inl (mirrorSourceLocked_lock (fun sources info db => ?_) h)
    split
    · rfl
    dsimp only
    split
    · simp only [mirrorCall_lock]
    split
    · simp only [mirrorCall_lock]
    split
    · simp only [mirrorCall_lock]
    · simp only [mirrorCall_lock, putSession]
  | portRemove env session_id port_id direction =>
    refine .inl (mirrorSourceLocked_lock (fun sources info db => ?_) h)
    split
    · rfl
    dsimp only
    split
    · exact mirrorCall_lock ..
    · exact mirrorCall_lock ..
  | isValid session_id =>
    simp only [mirrorExec, mirrorIsValidMirrorSession]
    split
    next hnone => exact .inr ⟨session_id, rfl, Option.isNone_iff_eq_none.mp hnone, rfl⟩
    · exact .inl (LockDepth.unlock_lock h)

end Mirror

/-! ## Both locks -/

section Both

variable {max_hash_index : Nat} {db : HashMirrorDb}

theorem hashLockAfter_cases {op} (h : db.hash_lock.Valid) {hash}
    (hexit : hashLockExec max_hash_index op db.hash = some hash) :
    hashLockAfter max_hash_index op db.hash db.hash_lock = db.hash_lock ∧
        (HashMirrorCall.hash op).LocksOk db ∨
      hashLockAfter max_hash_index op db.hash db.hash_lock = db.hash_lock.lock ∧
        ¬ (HashMirrorCall.hash op).LocksOk db := by
  have hback := LockDepth.unlock_lock h
  cases op with
  | getAttr env hash_obj_id attr_list =>
    refine .inl ⟨?_, trivial⟩
    simp only [hashLockAfter]
    split
    · rfl
    split
    · rfl
    · exact hback
  | switchGet attr_id => exact .inl ⟨hback, trivial⟩
  | op op =>
    cases op with
    | create env attr_list =>
      refine .inl ⟨?_, trivial⟩
      simp only [hashLockAfter]
      split
      · rfl
      · exact hback
    | remove hash_obj_id =>
      refine .inl ⟨?_, trivial⟩
      simp only [hashLockAfter]
      split
      · rfl
      · exact hback
    | setAttr env hash_obj_id attr =>
      simp only [hashLockAfter]
      split
      next htype => exact .inl ⟨rfl, fun hok => absurd hok htype⟩
      rename_i htype
      split
      next hvalid => exact .inl ⟨rfl, fun _ hok => absurd hok hvalid⟩
      rename_i hvalid
      split
      next hbad =>
        refine .inr ⟨rfl, fun hok => ?_⟩
        -- the call came out, so it did not wait
        have hlocked : db.hash.locked = false := by
          simp only [hashLockExec, hashExec, hashObjSetAttr, if_neg htype, if_neg hvalid] at hexit
          split at hexit
          · cases hexit
          next hfree => exact Bool.eq_false_iff.mpr hfree
        have hgood := hok (not_not.mp htype) (not_not.mp hvalid) hlocked hbad.1
        rw [hbad.2] at hgood
        cases hgood
      next hgood =>
        exact .inl ⟨hback, fun _ _ _ hsome => Bool.eq_false_iff.mpr fun hbad => hgood ⟨hsome, hbad⟩⟩
    | switchSet env attr_id hash_obj_id =>
      simp only [hashLockAfter]
      split
      next hbad =>
        refine .inr ⟨rfl, fun hok => ?_⟩
        have hlocked : db.hash.locked = false := by
          simp only [hashLockExec, hashExec, switchHashAttrSet] at hexit
          split at hexit
          · cases hexit
          next hfree => exact Bool.eq_false_iff.mpr hfree
        exact (hok hlocked).elim hbad.1 hbad.2
      next hgood =>
        refine .inl ⟨hback, fun _ => ?_⟩
        by_cases hnull : hash_obj_id = .null
        · exact .inl hnull
        · exact .inr (not_not.mp fun htype => hgood ⟨hnull, htype⟩)

theorem hashLockExec_waits {op} (hexit : hashLockExec max_hash_index op db.hash = none) :
    (HashMirrorCall.hash op).LocksOk db := by
  cases op with
  | op op =>
    cases op with
    | setAttr env hash_obj_id attr =>
      intro htype hvalid hlocked hsome
      obtain ⟨obj, hobj⟩ := Option.isSome_iff_exists.mp hsome
      simp only [hashLockExec, hashExec, hashObjSetAttr, htype, hvalid, hlocked, hobj,
        Option.map_eq_none_iff] at hexit
      simp only [ne_eq, not_true_eq_false, if_false, Bool.false_eq_true] at hexit
      repeat' split at hexit
      all_goals cases hexit
    | switchSet env attr_id hash_obj_id =>
      intro hlocked
      simp only [hashLockExec, hashExec, switchHashAttrSet, hlocked, Option.map_eq_none_iff] at hexit
      simp only [Bool.false_eq_true, if_false] at hexit
      repeat' split at hexit
      all_goals cases hexit
    | _ => exact trivial
  | _ => exact trivial

structure HashMirrorLocksValid (db : HashMirrorDb) : Prop where
  hash : db.hash_lock.Valid
  mirror : db.mirror.mirror_lock.Valid

theorem HashMirrorLocksValid.step (h : HashMirrorLocksValid db) {c} :
    HashMirrorLocksValid (hashMirrorStep max_hash_index c db) := by
  cases c with
  | hash op =>
    cases hexit : hashLockExec max_hash_index op db.hash with
    | none =>
      simp only [hashMirrorStep, hashMirrorExit, hexit]
      exact h
    | some hash =>
      simp only [hashMirrorStep, hashMirrorExit, hexit]
      refine ⟨?_, h.mirror⟩
      show (hashLockAfter max_hash_index op db.hash db.hash_lock).Valid
      rcases hashLockAfter_cases h.hash hexit with ⟨hlock, -⟩ | ⟨hlock, -⟩
      · rw [hlock]
        exact h.hash
      · rw [hlock]
        exact h.hash.lock
  | mirror op =>
    refine ⟨h.hash, ?_⟩
    show (mirrorExec op db.mirror).2.mirror_lock.Valid
    rcases mirrorExec_lock op h.mirror with hlock | ⟨-, -, -, hlock⟩
    · rw [hlock]
      exact h.mirror
    · rw [hlock]
      exact h.mirror.lock

def HashMirrorDb.initial : HashMirrorDb := ⟨.initial, ⟨0, false⟩, .initial⟩

/-- **Hash and mirror locks are balanced**: in every state that any run reaches, a call leaves both locks
on its way out as it found them if and only if it meets the condition. -/
theorem hashMirrorLocksBalanced_iff
    (hrun : Run (hashMirrorStep max_hash_index) (fun _ _ => True) .initial db) (c : HashMirrorCall) :
    (∀ db', hashMirrorExit max_hash_index c db = some db' → HashMirrorLocksBalanced db db') ↔
      c.LocksOk db := by
  have hvalid : HashMirrorLocksValid db :=
    hrun.induct (P := HashMirrorLocksValid) (fun c _ h _ => h.step)
      ⟨fun hneg => absurd hneg (lt_irrefl (0 : Int)), fun hneg => absurd hneg (lt_irrefl (0 : Int))⟩
  cases c with
  | hash op =>
    cases hexit : hashLockExec max_hash_index op db.hash with
    | none =>
      refine iff_of_true (fun db' h => ?_) ?_
      · simp only [hashMirrorExit, hexit, Option.map_none, reduceCtorEq] at h
      · exact hashLockExec_waits hexit
    | some hash =>
      simp only [hashMirrorExit, hexit, Option.map_some, Option.some.injEq, forall_eq']
      rcases hashLockAfter_cases hvalid.hash hexit with ⟨hlock, hok⟩ | ⟨hlock, hno⟩
      · exact iff_of_true ⟨hlock, rfl⟩ hok
      · exact iff_of_false (fun h => LockDepth.lock_ne _ (hlock.symm.trans h.hash)) hno
  | mirror op =>
    simp only [hashMirrorExit, Option.some.injEq, forall_eq']
    rcases mirrorExec_lock op hvalid.mirror with hlock | ⟨session_id, rfl, hnone, hlock⟩
    · refine iff_of_true ⟨rfl, hlock⟩ ?_
      cases op with
      | isValid session_id =>
        refine Option.isSome_iff_ne_none.mpr fun hnone => LockDepth.lock_ne _ (Eq.trans ?_ hlock)
        simp only [mirrorExec, mirrorIsValidMirrorSession, MirrorDb.lock, hnone, Option.isNone_none,
          if_true]
      | _ => exact trivial
    · refine iff_of_false (fun h => LockDepth.lock_ne _ (hlock.symm.trans h.mirror)) fun hok => ?_
      have hok' : (db.mirror.mirror_sessions_tree session_id).isSome = true := hok
      rw [hnone] at hok'
      cases hok'

theorem hashMirrorLocksBalanced_iff_switchSet :
    (hashMirrorExit 10 (.hash (.op (.switchSet .good .ecmpHash .null))) .initial).isSome = true ∧
    ∀ db', hashMirrorExit 10 (.hash (.op (.switchSet .good .ecmpHash .null))) .initial = some db' →
      HashMirrorLocksBalanced .initial db' :=
  ⟨rfl, (hashMirrorLocksBalanced_iff (.nil _) _).mpr fun _ => .inl rfl⟩

/-- The first call asks for a mirror session that has not been created. -/
theorem not_hashMirrorLocksBalanced :
    ¬ ∀ db', hashMirrorExit 10 (.mirror (.isValid ⟨.mirrorSession, 1⟩)) .initial = some db' →
      HashMirrorLocksBalanced .initial db' := fun h =>
  absurd (h _ rfl).mirror (by decide)

end Both

end OpxSai
