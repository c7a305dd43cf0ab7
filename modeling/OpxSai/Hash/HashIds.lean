import Mathlib.Logic.Function.Basic
import OpxSai.Hash.Hash
import OpxSai.Lib.Run

/-!
# The ids of hash objects

Any number of threads create and remove hash objects. A create has three steps: an index is chosen, the
node is filled and inserted under the lock, and the index is marked. Between them the others go on.

An insert that is refused leaves the status as it was, so such a create returns an id that is not its own;
and a remove that comes before the mark leaves a used index without an object.

* `HashMoveFits`, `hashIdsUnique_of_run` — the condition, and that the property holds in every run under it.
-/

variable (max_hash_index : Nat) (env : HashEnv) (attr_list : List HashAttr)

namespace OpxSai

open HashDb

/-! ## Threads -/

/-- A thread is in no call, or in a create: with an index that it chose, or with a node that it filled. -/
inductive HashThread where
  | idle
  | chosen (env : HashEnv) (attr_list : List HashAttr) (hash_index : Nat)
  | filled (hash_index : Nat)

/-- The module, its threads, and the ids that creates returned and that were not removed since. -/
structure HashSystem where
  db : HashDb
  threads : Nat → HashThread
  returned : List Oid

def HashSystem.initial : HashSystem := ⟨.initial, fun _ => .idle, []⟩

def HashSystem.setThread (t : Nat) (thread : HashThread) (s : HashSystem) : HashSystem :=
  { s with threads := Function.update s.threads t thread }

inductive HashMove where
  | choose (t : Nat) (env : HashEnv) (attr_list : List HashAttr)
  | fill (t : Nat)
  | mark (t : Nat)
  | remove (t : Nat) (hash_obj_id : Oid)

def hashChosen (attr_list : List HashAttr) : Except Status Nat → HashThread
  | .error _ => .idle
  | .ok hash_index => .chosen env attr_list hash_index

def hashFilled (hash_index : Nat) (rc : Status) : HashThread :=
  if rc = .success then .filled hash_index else .idle

def hashRemoved (hash_obj_id : Oid) (rc : Status) (returned : List Oid) : List Oid :=
  if rc = .success then returned.erase hash_obj_id else returned

/-- One step of one thread; a thread that is elsewhere does nothing. -/
def hashMove (max_hash_index : Nat) : HashMove → HashSystem → HashSystem
  | .choose t env attr_list, s =>
    match s.threads t with
    | .idle =>
      let choice := hashObjChoose max_hash_index env attr_list s.db
      { s with db := choice.2 }.setThread t (hashChosen env attr_list choice.1)
    | _ => s
  | .fill t, s =>
    match s.threads t with
    | .chosen env attr_list hash_index =>
      let filled := hashObjFill env attr_list hash_index s.db
      { s with db := filled.2 }.setThread t (hashFilled hash_index filled.1)
    | _ => s
  | .mark t, s =>
    match s.threads t with
    | .filled hash_index =>
      { s with db := hashObjMark hash_index s.db
               returned := hashObjId hash_index :: s.returned }.setThread t .idle
    | _ => s
  | .remove t hash_obj_id, s =>
    match s.threads t with
    | .idle =>
      match hashObjRemove hash_obj_id s.db with
      | none => s
      | some (rc, db) => { s with db := db, returned := hashRemoved hash_obj_id rc s.returned }
    | _ => s

/-- **Ids are unique.** -/
structure HashIdsUnique (max_hash_index : Nat) (s : HashSystem) : Prop where
  /-- The id that a create returned is that of a node. -/
  live : ∀ o ∈ s.returned, (s.db.hash_objs o).isSome = true
  unique : s.returned.Nodup
  /-- With no call in progress, an index is used where an object has it. -/
  marked : (∀ t, s.threads t = .idle) → ∀ i, i < max_hash_index →
    (s.db.hash_index_bitmap i = false ↔ (s.db.hash_objs (hashObjId i)).isSome = true)

/-- **When a step keeps the ids.** The insert of a node that was filled is not refused, by the tree or for
an object with this id; and the id of a create is not removed before its index is marked. -/
def HashMoveFits : HashMove → HashSystem → Prop
  | .fill t, s => ∀ env attr_list hash_index, s.threads t = .chosen env attr_list hash_index →
      (hashAttrSet env 0 attr_list .zero).1 = .success →
      env.outside s.db.outside_log (.insert (hashObjId hash_index)) = .success ∧
      (s.db.hash_objs (hashObjId hash_index)).isSome = false
  | .remove _ hash_obj_id, s => ∀ u hash_index, s.threads u = .filled hash_index →
      hash_obj_id ≠ hashObjId hash_index
  | _, _ => True

/-! ## The invariant -/

/-- A used index is that of an object, and an object without one is that of a create that goes on. -/
structure HashIdsInv (s : HashSystem) : Prop where
  ids : ∀ o, (s.db.hash_objs o).isSome = true → o = hashObjId o.id
  used : ∀ i, s.db.hash_index_bitmap i = false → (s.db.hash_objs (hashObjId i)).isSome = true
  marked : ∀ i, (s.db.hash_objs (hashObjId i)).isSome = true →
    s.db.hash_index_bitmap i = false ∨ ∃ t, s.threads t = .filled i
  /-- The node of a create that goes on is there, and nobody else has its index. -/
  filled : ∀ t i, s.threads t = .filled i →
    (s.db.hash_objs (hashObjId i)).isSome = true ∧ s.db.hash_index_bitmap i = true
  alone : ∀ t u i, s.threads t = .filled i → s.threads u = .filled i → t = u
  returned : ∀ o ∈ s.returned, o = hashObjId o.id ∧ s.db.hash_index_bitmap o.id = false
  unique : s.returned.Nodup

theorem HashIdsInv.initial : HashIdsInv .initial := by
  refine ⟨fun o h => ?_, fun i h => ?_, fun i h => ?_, fun t i h => ?_, fun t u i h => ?_,
    fun o h => absurd h List.not_mem_nil, List.nodup_nil⟩
  all_goals cases h

section Steps

variable {s : HashSystem}

theorem hashObjId_inj {i j : Nat} (h : hashObjId i = hashObjId j) : i = j := congrArg Oid.id h

theorem HashIdsInv.moves (h : HashIdsInv s) {db} {t : Nat} {thread}
    (hobjs : db.hash_objs = s.db.hash_objs) (hbits : db.hash_index_bitmap = s.db.hash_index_bitmap)
    (hbefore : ∀ i, s.threads t ≠ .filled i) (hafter : ∀ i, thread ≠ .filled i) :
    HashIdsInv ({ s with db := db }.setThread t thread) := by
  have hthreads : ∀ u i, Function.update s.threads t thread u = .filled i ↔ s.threads u = .filled i := by
    intro u i
    by_cases heq : u = t
    · subst heq
      rw [Function.update_self]
      exact ⟨fun h => absurd h (hafter i), fun h => absurd h (hbefore i)⟩
    · rw [Function.update_of_ne heq]
  refine ⟨fun o ho => h.ids o (hobjs ▸ ho), fun i hi => ?_, fun i hi => ?_, fun u i hu => ?_,
    fun u v i hu hv => h.alone u v i ((hthreads u i).mp hu) ((hthreads v i).mp hv), fun o ho => ?_, h.unique⟩
  · show (db.hash_objs _).isSome = true
    rw [hobjs]
    exact h.used i (hbits ▸ hi)
  · rcases h.marked i (hobjs ▸ hi) with hbit | ⟨u, hu⟩
    · exact .inl (hbits ▸ hbit)
    · exact .inr ⟨u, (hthreads u i).mpr hu⟩
  · show (db.hash_objs _).isSome = true ∧ db.hash_index_bitmap i = true
    rw [hobjs, hbits]
    exact h.filled u i ((hthreads u i).mp hu)
  · show _ ∧ db.hash_index_bitmap _ = false
    rw [hbits]
    exact h.returned o ho

theorem HashIdsInv.fills (h : HashIdsInv s) {db : HashDb} {t hash_index : Nat} {obj : HashObject}
    (hobjs : db.hash_objs = s.db.hash_objs) (hbits : db.hash_index_bitmap = s.db.hash_index_bitmap)
    (hnew : (s.db.hash_objs (hashObjId hash_index)).isSome = false)
    (hbefore : ∀ i, s.threads t ≠ .filled i) :
    HashIdsInv ({ s with db := db.putObj (hashObjId hash_index) (some obj) }.setThread t
      (.filled hash_index)) := by
  have hput : ∀ o, (db.putObj (hashObjId hash_index) (some obj)).hash_objs o =
      if o = hashObjId hash_index then some obj else s.db.hash_objs o := by
    intro o
    rw [← hobjs]
    rfl
  have hself : Function.update s.threads t (.filled hash_index) t = .filled hash_index :=
    Function.update_self ..
  -- A thread with a filled node is this one, or has another index.
  have hthreads : ∀ u i, Function.update s.threads t (.filled hash_index) u = .filled i →
      (u = t ∧ i = hash_index) ∨ (u ≠ t ∧ s.threads u = .filled i ∧ i ≠ hash_index) := by
    intro u i hu
    by_cases heq : u = t
    · subst heq
      rw [hself] at hu
      exact .inl ⟨rfl, (HashThread.filled.inj hu).symm⟩
    rw [Function.update_of_ne heq] at hu
    refine .inr ⟨heq, hu, ?_⟩
    rintro rfl
    have hthere := (h.filled u i hu).1
    rw [hnew] at hthere
    cases hthere
  have hfree : s.db.hash_index_bitmap hash_index = true := by
    cases hbit : s.db.hash_index_bitmap hash_index with
    | true => rfl
    | false =>
      have hthere := h.used _ hbit
      rw [hnew] at hthere
      cases hthere
  refine ⟨fun o ho => ?_, fun i hi => ?_, fun i hi => ?_, fun u i hu => ?_, fun u v i hu hv => ?_,
    fun o ho => ?_, h.unique⟩
  · have ho : ((db.putObj (hashObjId hash_index) (some obj)).hash_objs o).isSome = true := ho
    rw [hput] at ho
    split at ho
    next heq =>
      rw [heq]
      rfl
    · exact h.ids o ho
  · show ((db.putObj _ _).hash_objs _).isSome = true
    rw [hput]
    split
    · rfl
    · exact h.used i (hbits ▸ hi)
  · by_cases heq : i = hash_index
    · exact .inr ⟨t, by rw [heq]; exact hself⟩
    have hi : ((db.putObj (hashObjId hash_index) (some obj)).hash_objs (hashObjId i)).isSome = true := hi
    rw [hput, if_neg fun hid => heq (hashObjId_inj hid)] at hi
    rcases h.marked i hi with hbit | ⟨u, hu⟩
    · exact .inl (hbits ▸ hbit)
    have hne : u ≠ t := by
      rintro rfl
      exact hbefore i hu
    exact .inr ⟨u, (Function.update_of_ne hne ..).trans hu⟩
  · show ((db.putObj _ _).hash_objs _).isSome = true ∧ db.hash_index_bitmap i = true
    rw [hput, hbits]
    rcases hthreads u i hu with ⟨-, rfl⟩ | ⟨-, hu, hne⟩
    · rw [if_pos rfl]
      exact ⟨rfl, hfree⟩
    · rw [if_neg fun hid => hne (hashObjId_inj hid)]
      exact h.filled u i hu
  · rcases hthreads u i hu with ⟨rfl, rfl⟩ | ⟨-, hu, hne⟩
    · rcases hthreads v i hv with ⟨rfl, -⟩ | ⟨-, -, hne⟩
      · rfl
      · exact absurd rfl hne
    rcases hthreads v i hv with ⟨-, rfl⟩ | ⟨-, hv, -⟩
    · exact absurd rfl hne
    · exact h.alone u v i hu hv
  · show _ ∧ db.hash_index_bitmap _ = false
    rw [hbits]
    exact h.returned o ho

theorem HashIdsInv.marks (h : HashIdsInv s) {t hash_index : Nat}
    (hfilled : s.threads t = .filled hash_index) :
    HashIdsInv ({ s with db := hashObjMark hash_index s.db
                         returned := hashObjId hash_index :: s.returned }.setThread t .idle) := by
  obtain ⟨hthere, hfree⟩ := h.filled t _ hfilled
  have hbits : ∀ i, (hashObjMark hash_index s.db).hash_index_bitmap i =
    if i = hash_index then false else s.db.hash_index_bitmap i := fun i => rfl
  have hthreads : ∀ u i, Function.update s.threads t .idle u = .filled i →
      u ≠ t ∧ s.threads u = .filled i := by
    intro u i hu
    by_cases heq : u = t
    · rw [heq, Function.update_self] at hu
      cases hu
    · rw [Function.update_of_ne heq] at hu
      exact ⟨heq, hu⟩
  refine ⟨h.ids, fun i hi => ?_, fun i hi => ?_, fun u i hu => ?_,
    fun u v i hu hv => h.alone u v i (hthreads u i hu).2 (hthreads v i hv).2, fun o ho => ?_,
    List.nodup_cons.mpr ⟨fun hmem => ?_, h.unique⟩⟩
  · show (s.db.hash_objs _).isSome = true
    have hi : (hashObjMark hash_index s.db).hash_index_bitmap i = false := hi
    rw [hbits] at hi
    split at hi
    next heq =>
      rw [heq]
      exact hthere
    · exact h.used i hi
  · show (hashObjMark hash_index s.db).hash_index_bitmap i = false ∨ _
    rw [hbits]
    split
    · exact .inl rfl
    rename_i hne
    refine (h.marked i hi).imp id fun ⟨u, hu⟩ => ⟨u, ?_⟩
    have hother : u ≠ t := by
      rintro rfl
      exact hne (HashThread.filled.inj (hu.symm.trans hfilled))
    exact (Function.update_of_ne hother ..).trans hu
  · obtain ⟨hother, hu'⟩ := hthreads u i hu
    refine ⟨(h.filled u i hu').1, ?_⟩
    show (hashObjMark hash_index s.db).hash_index_bitmap i = true
    rw [hbits, if_neg]
    · exact (h.filled u i hu').2
    · rintro rfl
      exact hother (h.alone u t i hu' hfilled)
  · show _ ∧ (hashObjMark hash_index s.db).hash_index_bitmap o.id = false
    rw [hbits]
    rcases List.mem_cons.mp ho with rfl | ho
    · exact ⟨rfl, if_pos rfl⟩
    obtain ⟨hid, hbit⟩ := h.returned o ho
    refine ⟨hid, ?_⟩
    split
    · rfl
    · exact hbit
  · have hbit := (h.returned _ hmem).2
    exact absurd (hbit.symm.trans hfree) (by decide)

theorem HashIdsInv.removes (h : HashIdsInv s) {o} (hid : o = hashObjId o.id)
    (hnot : ∀ u i, s.threads u = .filled i → o ≠ hashObjId i) :
    HashIdsInv { s with db := (s.db.putObj o none).setIndex o.id true
                        returned := s.returned.erase o } := by
  have hobjs : ∀ o', ((s.db.putObj o none).setIndex o.id true).hash_objs o' =
    if o' = o then none else s.db.hash_objs o' := fun o' => rfl
  have hbits : ∀ i, ((s.db.putObj o none).setIndex o.id true).hash_index_bitmap i =
    if i = o.id then true else s.db.hash_index_bitmap i := fun i => rfl
  refine ⟨fun o' ho' => ?_, fun i hi => ?_, fun i hi => ?_, fun u i hu => ?_, h.alone, fun o' ho' => ?_,
    h.unique.erase o⟩
  · have ho' : (((s.db.putObj o none).setIndex o.id true).hash_objs o').isSome = true := ho'
    rw [hobjs] at ho'
    split at ho'
    · cases ho'
    · exact h.ids o' ho'
  · show (((s.db.putObj o none).setIndex o.id true).hash_objs _).isSome = true
    have hi : ((s.db.putObj o none).setIndex o.id true).hash_index_bitmap i = false := hi
    rw [hbits] at hi
    split at hi
    · cases hi
    rename_i hne
    rw [hobjs, if_neg fun heq => hne (congrArg Oid.id heq)]
    exact h.used i hi
  · show ((s.db.putObj o none).setIndex o.id true).hash_index_bitmap i = false ∨ _
    have hi : (((s.db.putObj o none).setIndex o.id true).hash_objs (hashObjId i)).isSome = true := hi
    rw [hobjs] at hi
    split at hi
    · cases hi
    rename_i hne
    rw [hbits, if_neg fun heq => hne (by rw [heq]; exact hid.symm)]
    exact h.marked i hi
  · show (((s.db.putObj o none).setIndex o.id true).hash_objs _).isSome = true ∧
      ((s.db.putObj o none).setIndex o.id true).hash_index_bitmap i = true
    have hne := hnot u i hu
    rw [hobjs, hbits, if_neg hne.symm]
    obtain ⟨hthere, hbit⟩ := h.filled u i hu
    refine ⟨hthere, ?_⟩
    split
    · rfl
    · exact hbit
  · show _ ∧ ((s.db.putObj o none).setIndex o.id true).hash_index_bitmap o'.id = false
    obtain ⟨hid', hbit⟩ := h.returned o' (List.mem_of_mem_erase ho')
    refine ⟨hid', ?_⟩
    rw [hbits, if_neg]
    · exact hbit
    intro heq
    have hsame : o' = o := hid'.trans ((congrArg hashObjId heq).trans hid.symm)
    rw [hsame] at ho'
    exact h.unique.not_mem_erase ho'

/-! ## What the parts of a call leave -/

theorem hashObjChoose_frame (db) :
    (hashObjChoose max_hash_index env attr_list db).2.hash_objs = db.hash_objs ∧
    (hashObjChoose max_hash_index env attr_list db).2.hash_index_bitmap = db.hash_index_bitmap ∧
    (hashObjChoose max_hash_index env attr_list db).2.locked = db.locked := by
  simp only [hashObjChoose]
  split
  · exact ⟨rfl, rfl, rfl⟩
  split
  · exact ⟨rfl, rfl, rfl⟩
  split <;> exact ⟨rfl, rfl, rfl⟩

theorem hashObjFill_cases {hash_index : Nat} {db}
    (hinsert : (hashAttrSet env 0 attr_list .zero).1 = .success →
      env.outside db.outside_log (.insert (hashObjId hash_index)) = .success ∧
      (db.hash_objs (hashObjId hash_index)).isSome = false) :
    ((hashObjFill env attr_list hash_index db).1 ≠ .success ∧
      (hashObjFill env attr_list hash_index db).2 = db) ∨
    ((hashObjFill env attr_list hash_index db).1 = .success ∧
      (db.hash_objs (hashObjId hash_index)).isSome = false ∧
      (hashObjFill env attr_list hash_index db).2 =
        (db.call env (.insert (hashObjId hash_index))).2.putObj (hashObjId hash_index)
          (some (hashAttrSet env 0 attr_list .zero).2)) := by
  simp only [hashObjFill]
  split
  next hfail => exact .inl ⟨hfail, rfl⟩
  rename_i hset
  obtain ⟨hanswer, hnew⟩ := hinsert (Classical.not_not.mp hset)
  refine .inr ?_
  rw [if_neg]
  · exact ⟨rfl, hnew, rfl⟩
  rintro (hrefused | hthere)
  · exact hrefused hanswer
  · exact absurd (hnew.symm.trans hthere) (by decide)

theorem hashObjRemove_cases {hash_obj_id} {db db'} {rc}
    (h : hashObjRemove hash_obj_id db = some (rc, db')) :
    (rc ≠ .success ∧ db' = db) ∨
    (rc = .success ∧ (db.hash_objs hash_obj_id).isSome = true ∧
      db' = (db.putObj hash_obj_id none).setIndex hash_obj_id.id true) := by
  simp only [hashObjRemove] at h
  split at h
  · cases h
    exact .inl ⟨by simp, rfl⟩
  split at h
  · cases h
  cases hobj : db.hash_objs hash_obj_id with
  | none =>
    rw [hobj] at h
    cases h
    exact .inl ⟨by simp, rfl⟩
  | some obj =>
    rw [hobj] at h
    dsimp only at h
    split at h
    · cases h
      exact .inl ⟨by simp, rfl⟩
    · cases h
      exact .inr ⟨rfl, rfl, rfl⟩

theorem hashMove_inv {max_hash_index : Nat} {move : HashMove} (h : HashIdsInv s)
    (hfits : HashMoveFits move s) : HashIdsInv (hashMove max_hash_index move s) := by
  cases move with
  | choose t env attr_list =>
    cases ht : s.threads t with
    | idle =>
      obtain ⟨hobjs, hbits, -⟩ := hashObjChoose_frame _ env _ _
      simp only [hashMove, ht]
      refine h.moves hobjs hbits (fun i => by rw [ht]; exact nofun) fun i => ?_
      cases (hashObjChoose max_hash_index env attr_list s.db).1 <;> exact nofun
    | chosen _ _ _ | filled _ =>
      simp only [hashMove, ht]
      exact h
  | fill t =>
    cases ht : s.threads t with
    | chosen env attr_list hash_index =>
      have hbefore : ∀ i, s.threads t ≠ .filled i := fun i => by rw [ht]; exact nofun
      simp only [hashMove, ht]
      rcases hashObjFill_cases env _ (hfits env attr_list hash_index ht) with
        ⟨hfail, hsame⟩ | ⟨hok, hnew, hput⟩
      · rw [hsame, hashFilled, if_neg hfail]
        exact h.moves rfl rfl hbefore fun _ => nofun
      · rw [hput, hashFilled, if_pos hok]
        exact h.fills rfl rfl hnew hbefore
    | idle | filled _ =>
      simp only [hashMove, ht]
      exact h
  | mark t =>
    cases ht : s.threads t with
    | filled hash_index =>
      simp only [hashMove, ht]
      exact h.marks ht
    | idle | chosen _ _ _ =>
      simp only [hashMove, ht]
      exact h
  | remove t hash_obj_id =>
    cases ht : s.threads t with
    | idle =>
      simp only [hashMove, ht]
      cases hremove : hashObjRemove hash_obj_id s.db with
      | none => exact h
      | some x =>
        obtain ⟨rc, db⟩ := x
        dsimp only
        rcases hashObjRemove_cases hremove with ⟨hfail, rfl⟩ | ⟨rfl, hthere, rfl⟩
        · rw [hashRemoved, if_neg hfail]
          exact h
        · rw [hashRemoved, if_pos rfl]
          exact h.removes (h.ids _ hthere) hfits
    | chosen _ _ _ | filled _ =>
      simp only [hashMove, ht]
      exact h

theorem HashIdsInv.isUnique (h : HashIdsInv s) {max_hash_index : Nat} :
    HashIdsUnique max_hash_index s where
  live := fun o ho => by
    obtain ⟨hid, hbit⟩ := h.returned o ho
    rw [hid]
    exact h.used _ hbit
  unique := h.unique
  marked := fun hidle i _ => by
    refine ⟨h.used i, fun hthere => (h.marked i hthere).resolve_right ?_⟩
    rintro ⟨t, ht⟩
    rw [hidle t] at ht
    cases ht

end Steps

/-- **Three steps of one thread**, with no step of another between them, are `hashObjCreate`. -/
theorem hashMove_create (max_hash_index t : Nat) (env : HashEnv) (attr_list)
    (s : HashSystem) (hidle : s.threads t = .idle) (hfree : s.db.locked = false) :
    let s' := hashMove max_hash_index (.mark t) (hashMove max_hash_index (.fill t)
      (hashMove max_hash_index (.choose t env attr_list) s))
    ∃ rc o, hashObjCreate max_hash_index env attr_list s.db = some (rc, o, s'.db) ∧
      s'.threads t = .idle ∧ s'.returned = if rc = .success then o :: s.returned else s.returned := by
  intro s'
  have hs' : s' = hashMove max_hash_index (.mark t) (hashMove max_hash_index (.fill t)
    (hashMove max_hash_index (.choose t env attr_list) s)) := rfl
  clear_value s'
  subst hs'
  have hlocked := (hashObjChoose_frame max_hash_index env attr_list s.db).2.2.trans hfree
  have herror : ∀ rc db, hashObjChoose max_hash_index env attr_list s.db = (.error rc, db) →
      rc ≠ .success := by
    intro rc db heq
    simp only [hashObjChoose] at heq
    split at heq
    next hbad =>
      rw [← Except.error.inj (Prod.mk.inj heq).1]
      exact hbad
    split at heq
    · rw [← Except.error.inj (Prod.mk.inj heq).1]
      simp
    split at heq
    · rw [← Except.error.inj (Prod.mk.inj heq).1]
      simp
    · cases (Prod.mk.inj heq).1
  rw [hashMove, hidle, hashObjCreate]
  generalize hashObjChoose _ _ _ _ = choice at hlocked herror ⊢
  obtain ⟨rc | hash_index, db⟩ := choice
  · have hself : Function.update s.threads t .idle t = .idle := Function.update_self ..
    refine ⟨rc, .null, ?_⟩
    simp only [hashChosen, hashMove, HashSystem.setThread, hself, if_neg (herror rc db rfl)]
    exact ⟨trivial, trivial, trivial⟩
  have hself : ∀ (f : Nat → HashThread) (thread : HashThread),
      Function.update f t thread t = thread := fun f thread => Function.update_self ..
  simp only [hashChosen, hashMove, HashSystem.setThread, hself]
  simp only at hlocked
  rw [if_neg (by rw [hlocked]; simp)]
  generalize hashObjFill _ _ _ _ = filled
  by_cases hok : filled.1 = .success
  · refine ⟨.success, hashObjId hash_index, ?_⟩
    rw [hashFilled, if_pos hok, if_neg (Classical.not_not.mpr hok)]
    simp only [hself, hok, if_true]
    exact ⟨trivial, trivial, trivial⟩
  refine ⟨filled.1, .null, ?_⟩
  rw [hashFilled, if_neg hok, if_pos hok]
  simp only [hself, hok, if_false]
  exact ⟨trivial, trivial, trivial⟩

/-- **The ids of hash objects are unique**, in every run of steps that keep them. -/
theorem hashIdsUnique_of_run {s : HashSystem}
    (hrun : Run (hashMove max_hash_index) HashMoveFits .initial s) : HashIdsUnique max_hash_index s :=
  (hrun.induct (fun move _ h hfits => hashMove_inv h hfits)
    HashIdsInv.initial).isUnique

theorem hashIdsUnique_of_run_two :
    HashIdsUnique 2 (hashMove 2 (.mark 1) (hashMove 2 (.fill 1) (hashMove 2 (.fill 0)
      (hashMove 2 (.choose 1 .good []) (hashMove 2
        (.choose 0 { HashEnv.good with native_list_alloc := fun _ => false } [.nativeHashFieldList [1]])
        .initial))))) := by
  have hfirst : Run (hashMove 2) HashMoveFits .initial _ :=
    .one (.choose 0 { HashEnv.good with native_list_alloc := fun _ => false }
      [.nativeHashFieldList [1]]) (by trivial)
  have hsecond := hfirst.snoc (.choose 1 .good []) (by trivial)
  have hfails := hsecond.snoc (.fill 0) (by
    intro env attr_list hash_index ht hset
    cases ht
    exact absurd hset (by decide))
  have hfills := hfails.snoc (.fill 1) (by
    intro env attr_list hash_index ht hset
    cases ht
    exact ⟨rfl, rfl⟩)
  exact hashIdsUnique_of_run 2 (hfills.snoc _ trivial)

/-- Two creates choose the same index, and both return its id. -/
theorem not_hashIdsUnique : ¬ ∀ (max_hash_index : Nat) (s : HashSystem),
    Run (hashMove max_hash_index) (fun _ _ => True) .initial s → HashIdsUnique max_hash_index s := by
  intro h
  have hfirst : Run (hashMove 2) (fun _ _ => True) .initial _ := .one (.choose 0 .good []) trivial
  have hsecond := hfirst.snoc (.choose 1 .good []) trivial
  have hfills := (hsecond.snoc (.fill 0) trivial).snoc (.fill 1) trivial
  have hmarks := (hfills.snoc (.mark 0) trivial).snoc (.mark 1) trivial
  have hreturned : (hashMove 2 (.mark 1) (hashMove 2 (.mark 0) (hashMove 2 (.fill 1) (hashMove 2 (.fill 0)
      (hashMove 2 (.choose 1 .good []) (hashMove 2 (.choose 0 .good []) .initial)))))).returned =
      [hashObjId 0, hashObjId 0] := rfl
  have hunique := (h 2 _ hmarks).unique
  rw [hreturned] at hunique
  exact absurd hunique (by decide)

end OpxSai
