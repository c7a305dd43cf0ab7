import OpxSai.Lib.Run
import OpxSai.Qos.UserWrites

/-!
# The lock of the buffer calls

The calls for pools and profiles take the lock of the module, use the nodes and give it back. A create
of a profile looks pools up before it takes the lock. And where a profile is not known, the helper that
reads its attributes gives the lock back, and so does its caller.

* `BufferLocked` — the lock is free between the calls, and nodes were used at depth one only;
* `bufferLock_of_run` — a call keeps this exactly when it meets the condition, in any run.
-/

namespace OpxSai

open QosDb

variable {db db' : QosDb} {env : QosEnv}

/-! ## Property -/

/-- The lock is free and has never been below zero, and every use of a node was at depth one. A node
that is not in its tree yet is not looked at. -/
structure BufferLocked (db : QosDb) : Prop where
  free : db.qos_lock = ⟨0, false⟩
  held : ∀ depth ∈ db.accesses, depth = 1

/-! ## What does not use the lock -/

structure LockSame (db db' : QosDb) : Prop where
  qos_lock : db'.qos_lock = db.qos_lock
  accesses : db'.accesses = db.accesses

namespace LockSame

theorem refl (db) : LockSame db db := ⟨rfl, rfl⟩

theorem trans {db₁ db₂ db₃} (h : LockSame db₁ db₂) (h' : LockSame db₂ db₃) :
    LockSame db₁ db₃ :=
  ⟨h'.qos_lock.trans h.qos_lock, h'.accesses.trans h.accesses⟩

theorem of_nodes (h : NodesSame db db') : LockSame db db' :=
  ⟨h.qos_lock, h.accesses⟩

theorem call (db) (env) (c) : LockSame db (db.call env c).2 :=
  of_nodes (.call db env c)

theorem of_user {user} (h : UserWrites env user db db') : LockSame db db' := by
  induction h with
  | trans _ _ h h' => exact h.trans h'
  | call _ db => exact call db env _
  | apply _ _ db => exact call db env _
  | wredId _ _ type _ => cases type <;> exact ⟨rfl, rfl⟩
  | mark _ type _ _ => cases type <;> exact ⟨rfl, rfl⟩
  | refl | wredLinks | pool => exact ⟨rfl, rfl⟩
  | profileId =>
    unfold setBufferProfileId
    split <;> exact ⟨rfl, rfl⟩
  | profileOf profile_id _ db =>
    unfold setProfileOf
    cases db.profile_tree profile_id <;> exact ⟨rfl, rfl⟩

end LockSame

section Locked

variable (env : QosEnv) (db : QosDb)

variable (pool_id profile_id : Oid) (ptr : Nat) (attr_list : List ProfileAttr)

theorem createBufferPoolLocked_lock {attr_list} :
    LockSame db (createBufferPoolLocked env attr_list db).2 := by
  simp only [createBufferPoolLocked]
  generalize updateBufferPoolNode 0 _ _ _ = updated
  generalize validateSharedBufferPoolSize _ _ = valid
  generalize uoidCreate _ _ = pool_id
  have hcreated := LockSame.call db env (.poolCreate valid.2)
  have hinserted := hcreated.trans (LockSame.call _ env (.poolInsert pool_id))
  generalize db.call _ _ = created at *
  generalize created.2.call _ _ = inserted at *
  split
  · exact .refl db
  split
  · exact .refl db
  split
  · exact .refl db
  split
  · exact hcreated
  split
  · exact hinserted.trans (.call _ env _)
  have hput : LockSame db (insertPoolNode pool_id { valid.2 with wred_id := .null } inserted.2) :=
    ⟨hinserted.qos_lock, hinserted.accesses⟩
  simp only [createBufferPoolWred]
  split
  · exact hput
  have hlinked := hput.trans
    (.of_user (@UserWrites.wredLinkSet env pool_id pool_id valid.2.wred_id .bufferPool _))
  generalize wredLinkSet _ _ _ _ _ = linked at *
  split
  · have hgone : LockSame db (removePoolNode pool_id linked.2) := ⟨hlinked.qos_lock, hlinked.accesses⟩
    exact hgone.trans (.call _ env _)
  · exact ⟨hlinked.qos_lock, hlinked.accesses⟩

theorem removeBufferPoolLocked_lock : LockSame db (removeBufferPoolLocked env pool_id db).2 := by
  have hcall := LockSame.call db env (.poolRemove pool_id)
  simp only [removeBufferPoolLocked]
  split
  · exact .refl db
  split
  · exact .refl db
  split
  · exact hcall
  · exact ⟨hcall.qos_lock, hcall.accesses⟩

theorem bufferPoolAttrSetLocked_lock {attr} :
    LockSame db (bufferPoolAttrSetLocked env pool_id attr db).2 := by
  have hcall := LockSame.call db env (.poolAttrSet pool_id attr)
  simp only [bufferPoolAttrSetLocked]
  split
  · exact .refl db
  split
  · exact .refl db
  cases attr with
  | xoffSize u32 =>
    simp only
    split
    · exact .refl db
    · exact hcall
  | size u32 =>
    simp only
    split
    · exact .refl db
    split
    · exact hcall
    · exact ⟨hcall.qos_lock, hcall.accesses⟩
  | wredProfileId oid =>
    simp only
    split
    · exact .refl db
    split
    · exact .refl db
    · exact .of_user (@UserWrites.wredLinkSet env pool_id pool_id _ .bufferPool db)
  | _ => exact .refl db

theorem updateBufferProfileNode_lock : ∀ attr_idx db,
    LockSame db (updateBufferProfileNode ptr attr_idx attr_list db).2 := by
  induction attr_list with
  | nil => exact fun _ db => .refl db
  | cons attr attr_list ih =>
    intro attr_idx db
    cases attr with
    | poolId oid =>
      simp only [updateBufferProfileNode]
      split
      · exact .refl db
      have hmove : LockSame db (moveBufferPool ptr oid db) := by
        simp only [moveBufferPool]
        split <;> exact ⟨rfl, rfl⟩
      exact hmove.trans (ih (attr_idx + 1) _)
    | bufferSize | thresholdMode | sharedDynamicTh | sharedStaticTh | xoffTh | xonTh =>
      obtain ⟨hlock, haccesses⟩ := ih (attr_idx + 1) (setBufferProfile ptr _ db)
      exact ⟨hlock, haccesses⟩
    | unknown id => exact .refl db

theorem createBufferProfileLocked_lock :
    LockSame db (createBufferProfileLocked env ptr attr_list db).2 := by
  have hupdated := updateBufferProfileNode_lock ptr attr_list 0 db
  simp only [createBufferProfileLocked]
  generalize updateBufferProfileNode _ 0 _ _ = updated at *
  have hcreated := hupdated.trans
    (LockSame.call _ env (.profileCreate ((updated.2.profiles.get ptr).getD bufferProfileInit)))
  generalize updated.2.call _ _ = created at *
  generalize uoidCreate _ _ = profile_id
  have hstored : LockSame db (setBufferProfile ptr (fun profile =>
      { profile with profile_id := profile_id }) created.2) := ⟨hcreated.qos_lock, hcreated.accesses⟩
  have hinserted := hstored.trans (LockSame.call _ env (.profileInsert profile_id))
  generalize (setBufferProfile ptr (fun profile => { profile with profile_id := profile_id })
      created.2).call _ _ = inserted
    at *
  split
  · exact ⟨hupdated.qos_lock, hupdated.accesses⟩
  split
  · exact ⟨hcreated.qos_lock, hcreated.accesses⟩
  split
  · have hremoved := hinserted.trans (LockSame.call _ env (.profileRemove profile_id))
    exact ⟨hremoved.qos_lock, hremoved.accesses⟩
  · exact ⟨hinserted.qos_lock, hinserted.accesses⟩

theorem removeBufferProfileLocked_lock : LockSame db (removeBufferProfileLocked env profile_id db).2 := by
  have hcall := LockSame.call db env (.profileRemove profile_id)
  simp only [removeBufferProfileLocked]
  split
  · split
    · exact .refl db
    split
    · exact hcall
    · simp only [bufferProfileNodeRemoveFromTree]
      split <;> exact ⟨hcall.qos_lock, hcall.accesses⟩
  · exact .refl db

theorem checkBufferSize_lock (attr) (profile) :
    LockSame db (checkBufferSize env attr profile db).2 := by
  have hgrowth : ∀ u32, LockSame db (checkBufferGrowth env profile u32 db).2 := by
    intro u32
    have hcall := LockSame.call db env (.checkBufferSize profile.buffer_pool_id profile.profile_id u32)
    simp only [checkBufferGrowth]
    split
    · exact .refl db
    split <;> exact hcall
  cases attr with
  | poolId oid =>
    simp only [checkBufferSize]
    split <;> exact .refl db
  | bufferSize u32 =>
    simp only [checkBufferSize]
    split
    · exact hgrowth _
    · exact .refl db
  | xoffTh u32 =>
    simp only [checkBufferSize]
    split
    · exact .refl db
    split
    · exact hgrowth _
    · exact .refl db
  | _ => exact .refl db

theorem updateBufferProfileObjects_lock (profile) (old_attr attr) :
    LockSame db (updateBufferProfileObjects env ptr profile old_attr attr db).2 := by
  rcases updateBufferProfileObjects_cases env ptr _ _ _ db with
    ⟨-, hsame⟩ | ⟨-, db', hsame, -, heq⟩
  · exact .of_nodes hsame
  · rw [heq]
    exact (LockSame.of_nodes hsame).trans (updateBufferProfileNode_lock ptr _ 0 db')

theorem bufferProfileAttrSetLocked_lock {old_attr attr} :
    LockSame db (bufferProfileAttrSetLocked env profile_id old_attr attr db).2 := by
  simp only [bufferProfileAttrSetLocked]
  split
  next ptr profile _ _ =>
    have hchecked := checkBufferSize_lock env db attr profile
    split
    · exact .refl db
    generalize checkBufferSize _ _ _ _ = checked at *
    split
    · exact hchecked
    rename_i buf_size is_add _
    have hupdated := hchecked.trans
      (updateBufferProfileObjects_lock env checked.2 ptr profile old_attr attr)
    generalize updateBufferProfileObjects _ _ _ _ _ _ = updated at *
    split
    · exact hupdated
    exact bufferProfileRecalc_keeps (fun pool_id size is_add _ h => h.trans (.of_user
      (@UserWrites.bufferPoolSizeRecalc env pool_id pool_id size is_add _))) _ _ _ _ _
      hupdated
  · exact .refl db

theorem objUpdateBufferProfile_lock {object_id profile_id} :
    LockSame db (objUpdateBufferProfile env object_id profile_id db).2 :=
  .of_user .objUpdateBufferProfile

end Locked

/-! ## One call -/

structure BufferHeld (db : QosDb) : Prop where
  taken : db.qos_lock = ⟨1, false⟩
  held : ∀ depth ∈ db.accesses, depth = 1

theorem BufferLocked.lock (h : BufferLocked db) : BufferHeld db.lock := by
  refine ⟨?_, h.held⟩
  show db.qos_lock.lock = _
  rw [h.free]
  rfl

theorem BufferHeld.access (h : BufferHeld db) : BufferHeld db.access := by
  refine ⟨h.taken, fun depth hdepth => ?_⟩
  rcases List.mem_append.mp hdepth with hold | hnew
  · exact h.held _ hold
  · rw [List.mem_singleton.mp hnew, h.taken]

theorem BufferHeld.unlock (h : BufferHeld db) : BufferLocked db.unlock := by
  refine ⟨?_, h.held⟩
  show db.qos_lock.unlock = _
  rw [h.taken]
  rfl

theorem BufferHeld.same (h : BufferHeld db) (hsame : LockSame db db') :
    BufferHeld db' :=
  ⟨hsame.qos_lock.trans h.taken, fun depth hdepth => h.held _ (hsame.accesses ▸ hdepth)⟩

theorem BufferLocked.same (h : BufferLocked db) (hsame : LockSame db db') :
    BufferLocked db' :=
  ⟨hsame.qos_lock.trans h.free, fun depth hdepth => h.held _ (hsame.accesses ▸ hdepth)⟩

theorem BufferLocked.call (h : BufferLocked db) (hsame : LockSame db.lock.access db') :
    BufferLocked db'.unlock :=
  (h.lock.access.same hsame).unlock

/-- A lock that is given back twice. -/
theorem not_bufferLocked_of_unlock (h : BufferLocked db) : ¬ BufferLocked db.unlock := by
  intro hno
  have hdepth : db.qos_lock.unlock = ⟨0, false⟩ := hno.free
  rw [h.free] at hdepth
  cases hdepth

/-- A use of a node outside of the lock shows for ever. -/
theorem not_bufferLocked_of_access (h : BufferLocked db)
    (haccess : db.qos_lock.depth ∈ db'.accesses) : ¬ BufferLocked db' := by
  intro hno
  have hone := hno.held _ haccess
  rw [h.free] at hone
  cases hone

/-- The condition on a call: a create of a profile that the tables take names no pool, and a profile
that is read is known. -/
def BufferLockOk (c : BufferCall) (db : QosDb) : Prop :=
  match c.op with
  | .createProfile attr_list =>
    attr_list = [] ∨ c.env.profile_validate .create attr_list ≠ .success ∨ namesPool attr_list = false
  | .setProfile profile_id attr =>
    c.env.profile_validate .set [attr] ≠ .success ∨ c.env.profile_get_validate [attr.id] ≠ .success ∨
      (db.profileNodeGet profile_id).isSome = true
  | .getProfile profile_id ids =>
    ids = [] ∨ c.env.profile_get_validate ids ≠ .success ∨
      (db.profileNodeGet profile_id).isSome = true
  | _ => True

theorem bufferProfileAttributesValidate_accesses (env) (attr_list)
    (db) :
    let valid := bufferProfileAttributesValidate env attr_list .create db
    (BufferLockOk ⟨env, .createProfile attr_list⟩ db ∧ valid.2 = db) ∨
    (¬ BufferLockOk ⟨env, .createProfile attr_list⟩ db ∧ valid.2 = db.access) := by
  intro valid
  have hvalid : bufferProfileAttributesValidate env attr_list .create db = valid := rfl
  clear_value valid
  unfold BufferLockOk
  simp only [bufferProfileAttributesValidate] at hvalid
  split at hvalid
  next hempty =>
    subst hvalid
    exact .inl ⟨.inl (List.length_eq_zero_iff.mp hempty), rfl⟩
  rename_i hempty
  split at hvalid
  next htable =>
    subst hvalid
    exact .inl ⟨.inr (.inl htable), rfl⟩
  rename_i htable
  rw [if_pos trivial] at hvalid
  by_cases hnames : namesPool attr_list = true
  · rw [if_pos hnames] at hvalid
    refine .inr ⟨?_, ?_⟩
    · rintro (hno | hno | hno)
      · exact hempty (List.length_eq_zero_iff.mpr hno)
      · exact htable hno
      · rw [hnames] at hno
        cases hno
    · split at hvalid <;> exact congrArg Prod.snd hvalid.symm
  · have hnames' : namesPool attr_list = false := Bool.eq_false_iff.mpr hnames
    rw [if_neg hnames] at hvalid
    refine .inl ⟨.inr (.inr hnames'), ?_⟩
    split at hvalid <;> exact congrArg Prod.snd hvalid.symm

/-- **A create of a profile** looks at pools before it takes the lock. -/
theorem createBufferProfile_locked (h : BufferLocked db) {attr_list} :
    BufferLocked (createBufferProfile env attr_list db).2 ↔
      BufferLockOk ⟨env, .createProfile attr_list⟩ db := by
  have hafter : ∀ db : QosDb, LockSame db.lock.access (createBufferProfileLocked env db.profiles.next
      attr_list { db with profiles := db.profiles.alloc bufferProfileInit }.lock.access).2 := by
    intro db
    have hlocked := createBufferProfileLocked_lock env
      { db with profiles := db.profiles.alloc bufferProfileInit }.lock.access db.profiles.next attr_list
    exact ⟨hlocked.qos_lock, hlocked.accesses⟩
  simp only [createBufferProfile]
  have hvalid := bufferProfileAttributesValidate_accesses env attr_list db
  generalize bufferProfileAttributesValidate _ _ _ _ = valid at *
  rcases hvalid with ⟨hok, heq⟩ | ⟨hno, heq⟩
  · have hlocked : BufferLocked valid.2 := by
      rw [heq]
      exact h
    refine iff_of_true ?_ hok
    split
    · exact hlocked
    · exact hlocked.call (hafter valid.2)
  · -- the pools were looked up at depth zero
    have hseen : db.qos_lock.depth ∈ valid.2.accesses := by
      rw [heq]
      exact List.mem_append_right _ (List.mem_singleton_self _)
    refine iff_of_false (not_bufferLocked_of_access h ?_) hno
    split
    · exact hseen
    have haccesses := (hafter valid.2).accesses
    show db.qos_lock.depth ∈ (createBufferProfileLocked env valid.2.profiles.next attr_list
      { valid.2 with profiles := valid.2.profiles.alloc bufferProfileInit }.lock.access).2.accesses
    rw [haccesses]
    exact List.mem_append_left _ hseen

/-- **The attributes of a profile** are read under the lock, that is given back where there is no
profile. -/
theorem bufferProfileAttrGetInternal_held {profile_id} {ids} (h : BufferHeld db) :
    let got := bufferProfileAttrGetInternal env profile_id ids db
    ((ids = [] ∨ env.profile_get_validate ids ≠ .success ∨
        (db.profileNodeGet profile_id).isSome = true) ∧ BufferHeld got.2) ∨
    (¬ (ids = [] ∨ env.profile_get_validate ids ≠ .success ∨
        (db.profileNodeGet profile_id).isSome = true) ∧ got = (.error .itemNotFound, db.access.unlock)) := by
  intro got
  have hgot : bufferProfileAttrGetInternal env profile_id ids db = got := rfl
  clear_value got
  simp only [bufferProfileAttrGetInternal] at hgot
  split at hgot
  next hempty =>
    subst hgot
    exact .inl ⟨.inl (List.length_eq_zero_iff.mp hempty), h⟩
  rename_i hempty
  split at hgot
  next htable =>
    subst hgot
    exact .inl ⟨.inr (.inl htable), h⟩
  rename_i htable
  split at hgot
  next hnone =>
    have hnone' : db.profileNodeGet profile_id = none := hnone
    subst hgot
    refine .inr ⟨?_, rfl⟩
    rintro (hno | hno | hno)
    · exact hempty (List.length_eq_zero_iff.mpr hno)
    · exact htable hno
    · rw [hnone'] at hno
      cases hno
  next profile hsome =>
    have hsome' : db.profileNodeGet profile_id = some profile := hsome
    subst hgot
    exact .inl ⟨.inr (.inr (by rw [hsome']; rfl)), h.access⟩

theorem bufferProfileAttrGet_locked (h : BufferLocked db) {profile_id} {ids} :
    BufferLocked (bufferProfileAttrGet env profile_id ids db).2 ↔
      BufferLockOk ⟨env, .getProfile profile_id ids⟩ db := by
  simp only [bufferProfileAttrGet]
  rcases bufferProfileAttrGetInternal_held h.lock with ⟨hok, hheld⟩ | ⟨hno, hgot⟩
  · exact iff_of_true hheld.unlock hok
  · rw [hgot]
    exact iff_of_false (not_bufferLocked_of_unlock h.lock.access.unlock) hno

theorem bufferProfileAttrSet_locked (h : BufferLocked db) {profile_id} {attr} :
    BufferLocked (bufferProfileAttrSet env profile_id attr db).2 ↔
      BufferLockOk ⟨env, .setProfile profile_id attr⟩ db := by
  unfold BufferLockOk
  have hvalid : bufferProfileAttributesValidate env [attr] .set db =
      (env.profile_validate .set [attr], db) := by
    simp only [bufferProfileAttributesValidate]
    rw [if_neg (by simp)]
    split
    · rfl
    next hok => rw [if_neg (by simp), not_not.mp hok]
  simp only [bufferProfileAttrSet, hvalid]
  split
  next hfail => exact iff_of_true h (.inl hfail)
  rename_i htable
  rcases bufferProfileAttrGetInternal_held h.lock with ⟨hok, hheld⟩ | ⟨hno, hgot⟩
  · have hok' : env.profile_get_validate [attr.id] ≠ .success ∨
        (db.profileNodeGet profile_id).isSome = true := hok.resolve_left (by simp)
    refine iff_of_true ?_ (.inr hok')
    generalize bufferProfileAttrGetInternal _ _ _ _ = got at *
    split
    · exact hheld.unlock
    · exact hheld.unlock
    rename_i old_attr _ _
    exact (hheld.access.same
      (bufferProfileAttrSetLocked_lock env _ _)).unlock
  · rw [hgot]
    refine iff_of_false (not_bufferLocked_of_unlock h.lock.access.unlock) ?_
    rintro (hbad | hok)
    · exact htable hbad
    · exact hno (.inr hok)

theorem bufferStep_locked (h : BufferLocked db) (c) :
    BufferLocked (bufferStep c db) ↔ BufferLockOk c db := by
  obtain ⟨env, op⟩ := c
  cases op with
  | createPool attr_list =>
    refine iff_of_true ?_ trivial
    simp only [bufferStep, createBufferPool]
    split
    · exact h
    · exact h.call (createBufferPoolLocked_lock env _)
  | removePool pool_id => exact iff_of_true (h.call (removeBufferPoolLocked_lock env _ _)) trivial
  | setPool pool_id attr =>
    refine iff_of_true ?_ trivial
    simp only [bufferStep, bufferPoolAttrSet]
    split
    · exact h
    · exact h.call (bufferPoolAttrSetLocked_lock env _ _)
  | getPool pool_id attr_list =>
    refine iff_of_true ?_ trivial
    simp only [bufferStep, bufferPoolAttrGet]
    split
    · exact h
    split
    · exact h.call (.refl _)
    split
    · exact h.call (.call _ env _)
    · exact h.call (.refl _)
  | createProfile attr_list => exact createBufferProfile_locked h
  | removeProfile profile_id =>
    exact iff_of_true (h.call (removeBufferProfileLocked_lock env _ _)) trivial
  | setProfile profile_id attr => exact bufferProfileAttrSet_locked h
  | getProfile profile_id ids => exact bufferProfileAttrGet_locked h
  | updateUser object_id profile_id =>
    exact iff_of_true (h.same (objUpdateBufferProfile_lock env db)) trivial

/-- **Any run** of calls that meet the condition: the lock is free between the calls and nodes are used
at depth one, and the next call keeps that exactly when it meets the condition. -/
theorem bufferLock_of_run {db₀ db : QosDb} (hstart : BufferLocked db₀)
    (hrun : Run bufferStep BufferLockOk db₀ db) :
    BufferLocked db ∧ ∀ c, BufferLocked (bufferStep c db) ↔ BufferLockOk c db := by
  have hlocked : BufferLocked db := by
    refine hrun.induct (P := BufferLocked) ?_ hstart
    exact fun c _ h hok => (bufferStep_locked h c).mpr hok
  exact ⟨hlocked, bufferStep_locked hlocked⟩

theorem bufferLock_of_run_pool :
    let db := bufferStep ⟨.good 0, .createProfile []⟩
      (bufferStep ⟨.good 0, .setPool ⟨.bufferPool, 3⟩ (.size 50)⟩
        (bufferStep ⟨.good 3, .createPool [.size 100]⟩ .initial))
    BufferLocked db ∧ ∀ c, BufferLocked (bufferStep c db) ↔ BufferLockOk c db := by
  intro db
  have hstart : BufferLocked .initial := ⟨rfl, fun _ h => absurd h (by simp [QosDb.initial])⟩
  refine bufferLock_of_run hstart ?_
  exact .snoc _ (.snoc _ (.one _ trivial) trivial) (.inl rfl)

/-- A read of a profile that is not there leaves the lock below zero, and a create that names a pool
uses it without the lock. -/
theorem not_bufferLock_unknown :
    ¬ (∀ db, Run bufferStep (fun _ _ => True) .initial db → db.qos_lock = ⟨0, false⟩) ∧
    ¬ (∀ db, Run bufferStep (fun _ _ => True) .initial db → ∀ depth ∈ db.accesses, depth = 1) := by
  constructor
  · intro h
    have hlock := h _ (.one ⟨.good 0, .getProfile ⟨.bufferProfile, 4⟩ [.bufferSize]⟩ trivial)
    cases hlock
  · intro h
    have hdepth := h _ (.one ⟨.good 0, .createProfile [.poolId ⟨.bufferPool, 3⟩]⟩ trivial) 0 (by decide)
    cases hdepth

end OpxSai
