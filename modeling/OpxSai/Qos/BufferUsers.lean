import OpxSai.Lib.Run
import OpxSai.Qos.BufferLists

/-!
# The users of profiles

The lists of users change where a user goes to another profile, and where a profile comes or goes. They
are right in any run, whatever fails.
-/

namespace OpxSai

open QosDb
variable {db : QosDb} (env : QosEnv)

/-! ## Calls that leave the lists alone -/

variable (profile_id pool_id : Oid) (attr : ProfileAttr) (old_pool_id : Oid)

theorem bufferPoolSizeRecalc_users (size : BitVec 32) (is_add : Bool) (db) :
    UsersSame db (bufferPoolSizeRecalc env pool_id size is_add db).2 := by
  rcases bufferPoolSizeRecalc_cases env _ _ _ db with ⟨-, hsame⟩ | ⟨-, -, -, -, hsame⟩
  · exact .of_trees hsame
  · exact (UsersSame.setBufferPool _).trans (.of_trees hsame)

theorem bufferProfileRecalc_users (pool_id) (buf_size : BitVec 32) (is_add : Bool) (db) :
    UsersSame db (bufferProfileRecalc env attr old_pool_id pool_id buf_size is_add db) :=
  bufferProfileRecalc_keeps (P := UsersSame db)
    (fun _ _ _ _ h => h.trans (bufferPoolSizeRecalc_users env _ _ _ _)) _ _ _
    _ is_add (.of_trees (.refl db))

theorem objBufferProfileRecalc_users (new_pool_id)
    (old_size new_size tmp_size : BitVec 32) (is_add : Bool) (db) :
    UsersSame db (objBufferProfileRecalc env old_pool_id new_pool_id old_size new_size tmp_size is_add
      db) :=
  objBufferProfileRecalc_keeps (P := UsersSame db)
    (fun _ _ _ _ h => h.trans (bufferPoolSizeRecalc_users env _ _ _ _)) _ _
    _ _ _ is_add (.of_trees (.refl db))

theorem createBufferPool_users {attr_list} :
    UsersSame db (createBufferPool env attr_list db).2 := by
  rcases createBufferPool_cases with
    ⟨-, hsame⟩ | ⟨-, -, -, pool, -, -, -, -, hsame⟩
  · exact .of_plain hsame
  · have hinsert : UsersSame db (insertPoolNode (uoidCreate .bufferPool env.hw_pool_id)
        { pool with wred_id := .null } db) := ⟨rfl, fun _ _ => rfl, fun _ => rfl⟩
    exact hinsert.trans (.of_plain hsame)

theorem removeBufferPool_users : UsersSame db (removeBufferPool env pool_id db).2 := by
  obtain ⟨-, ⟨-, hsame⟩ | ⟨-, hsame⟩⟩ := removeBufferPool_cases
  · exact .of_trees hsame
  · have hremove : UsersSame db (removePoolNode pool_id db) := ⟨rfl, fun _ _ => rfl, fun _ => rfl⟩
    exact hremove.trans (.of_trees hsame)

theorem bufferPoolAttrSet_users {attr} :
    UsersSame db (bufferPoolAttrSet env pool_id attr db).2 := by
  rcases bufferPoolAttrSet_cases env _ _ db with
    ⟨hsame, -⟩ | ⟨-, pool, pool', u32, -, -, -, hsame⟩
  · exact .of_plain hsame
  · exact (UsersSame.setBufferPool _).trans (.of_trees hsame)

theorem bufferProfileAttrSet_users :
    UsersSame db (bufferProfileAttrSet env profile_id attr db).2 := by
  rcases bufferProfileAttrSet_cases env profile_id attr db with
    ⟨-, hsame⟩ | ⟨-, ptr, profile, buf_size, is_add, checked, stored, hset⟩
  · exact .of_trees hsame
  · have hupdate := (UsersSame.of_trees hset.users).trans
      (updateBufferProfileNode_users ptr [attr] 0 stored)
    exact (hupdate.trans (bufferProfileRecalc_users env attr _ _ buf_size is_add _)).trans
      (.of_trees hset.recalc)

/-! ## A profile comes -/

theorem UsersLinked.fresh (h : UsersLinked db) : ¬ InProfileTree db db.profiles.next := by
  rintro ⟨o, ho⟩
  obtain ⟨profile, hget, -⟩ := h.node o _ ho
  exact Heap.ne_next_of_get hget rfl

section Start

variable {start : QosDb}

theorem ProfileStart.get (hstart : ProfileStart db start) :
    start.profiles.get db.profiles.next = some bufferProfileInit := by
  rw [hstart.profiles]
  exact Heap.get_alloc_next _ _

theorem ProfileStart.get_old (hstart : ProfileStart db start) (h : UsersLinked db) {ptr : Nat}
    (hptr : InProfileTree db ptr) : start.profiles.get ptr = db.profiles.get ptr := by
  rw [hstart.profiles]
  refine Heap.get_alloc_of_ne _ _ ?_
  rintro rfl
  exact h.fresh hptr

theorem ProfileStart.users (hstart : ProfileStart db start) (h : UsersLinked db) :
    UsersSame db start :=
  .of_objects hstart.profile_tree (fun ptr hptr => by rw [hstart.get_old h hptr]) hstart.ports
    hstart.queues hstart.pgs

end Start

def profileOf (attr_list : List ProfileAttr) : BufferProfile :=
  attr_list.foldl BufferProfile.withAttr bufferProfileInit

theorem profileOf_used (attr_list) :
    (profileOf attr_list).used = bufferProfileInit.used := by
  have hfold : ∀ profile : BufferProfile,
      (attr_list.foldl BufferProfile.withAttr profile).used = profile.used := by
    induction attr_list with
    | nil => exact fun _ => rfl
    | cons attr attr_list ih =>
      intro profile
      refine (ih (profile.withAttr attr)).trans ?_
      cases attr <;> rfl
  exact hfold bufferProfileInit

section Insert

variable {updated : QosDb} {profile : BufferProfile} {profile_id : Oid}

theorem insertProfileNode_users (h : UsersLinked db) (husers : UsersSame db updated)
    (hget : updated.profiles.get db.profiles.next = some profile)
    (hused : profile.used = bufferProfileInit.used) (hnone : db.profile_tree profile_id = none)
    (htype : profile_id.type = .bufferProfile) :
    UsersLinked (insertProfileNode db.profiles.next profile_id updated) := by
  have hfresh := h.fresh
  have hmid := h.same husers
  rw [← husers.tree] at hnone
  have hfresh' : ∀ o, updated.profile_tree o ≠ some db.profiles.next := by
    intro o ho
    rw [husers.tree] at ho
    exact hfresh ⟨o, ho⟩
  generalize db.profiles.next = ptr at *
  have hnew : (insertProfileNode ptr profile_id updated).profiles.get ptr =
      some { profile with profile_id := profile_id } := by
    show (updated.profiles.modify ptr _).get ptr = _
    rw [Heap.get_modify_self, hget]
    rfl
  have htree : ∀ o, (insertProfileNode ptr profile_id updated).profile_tree o =
      if o = profile_id then some ptr else updated.profile_tree o := fun _ => rfl
  have hother : ∀ o q, o ≠ profile_id → updated.profile_tree o = some q →
      (insertProfileNode ptr profile_id updated).profiles.get q = updated.profiles.get q := by
    intro o q _ hq
    refine Heap.get_modify_of_ne _ _ ?_
    rintro rfl
    exact hfresh' o hq
  have hnode : ∀ o p, (insertProfileNode ptr profile_id updated).profileNodeGet o = some p →
      (o = profile_id ∧ p = { profile with profile_id := profile_id }) ∨
      (o ≠ profile_id ∧ updated.profileNodeGet o = some p) := by
    intro o p hp
    obtain ⟨q, hq, hgetq⟩ := Option.bind_eq_some_iff.mp hp
    rw [htree] at hq
    split at hq
    next ho =>
      cases hq
      exact .inl ⟨ho, Option.some.inj (hgetq.symm.trans hnew)⟩
    rename_i ho
    rw [hother o q ho hq] at hgetq
    exact .inr ⟨ho, Option.bind_eq_some_iff.mpr ⟨q, hq, hgetq⟩⟩
  simp only [BufferProfile.used, bufferProfileInit, Prod.mk.injEq] at hused
  obtain ⟨-, hnum, hports, hqueues, hpgs⟩ := hused
  constructor
  · intro o q hq
    rw [htree] at hq
    split at hq
    next ho =>
      cases hq
      exact ⟨_, hnew, ho.symm, ho ▸ htype⟩
    rename_i ho
    rw [hother o q ho hq]
    exact hmid.node o q hq
  · intro o p hp type
    rcases hnode o p hp with ⟨ho, rfl⟩ | ⟨-, hp'⟩
    · have hnil : BufferProfile.users { profile with profile_id := profile_id } type = [] :=
        BufferProfile.users_nil hports hqueues hpgs _
      rw [hnil]
      refine ⟨List.nodup_nil, fun u => iff_of_false (by simp) ?_⟩
      -- no user names a profile before it is there
      rintro ⟨-, hu⟩
      have hu' : getBufferProfileId updated u = some o := hu
      rcases hmid.known u o hu' with hnull | hlive
      · rw [← ho, hnull] at htype
        cases htype
      rw [ho] at hlive
      unfold profileNodeGet at hlive
      rw [hnone] at hlive
      cases hlive
    · exact hmid.users o p hp' _
  · intro o p hp
    rcases hnode o p hp with ⟨-, rfl⟩ | ⟨-, hp'⟩
    · show profile.num_ref = profile.ports.length + profile.queues.length + profile.pgs.length
      rw [hnum, hports, hqueues, hpgs]
      rfl
    · exact hmid.num_ref o p hp'
  · intro u o hu
    refine (hmid.known u o hu).imp_right fun hlive => ?_
    unfold profileNodeGet
    rw [htree]
    split
    · rw [Option.bind_some, hnew]
      rfl
    rename_i ho
    obtain ⟨p, hp⟩ := Option.isSome_iff_exists.mp hlive
    obtain ⟨q, hq, hgetq⟩ := Option.bind_eq_some_iff.mp hp
    rw [hq, Option.bind_some, hother o q ho hq, hgetq]
    rfl

end Insert

theorem createBufferProfile_users (h : UsersLinked db) {env} {attr_list} :
    UsersLinked (createBufferProfile env attr_list db).2 := by
  rcases createBufferProfile_cases env attr_list db with ⟨-, hsame, -⟩ | ⟨-, start, hstart, hcase⟩
  · exact h.same (.of_trees hsame)
  simp only at hcase
  have husers := (hstart.users h).trans (updateBufferProfileNode_users db.profiles.next attr_list 0 start)
  obtain ⟨profile, hget, hfold⟩ :=
    updateBufferProfileNode_get _ 0 _ _ hstart.get
  generalize updateBufferProfileNode _ 0 _ _ = updated at *
  rcases hcase with ⟨-, -, hsame⟩ | ⟨-, htaken, hsame⟩
  · have hfree : UsersSame updated.2 (freeBufferProfile db.profiles.next updated.2) := by
      refine .of_objects rfl (fun ptr hptr => ?_) rfl rfl rfl
      obtain ⟨o, ho⟩ := hptr
      rw [husers.tree] at ho
      refine congrArg (Option.map BufferProfile.used) (Heap.get_free_of_ne _ ?_)
      rintro rfl
      exact h.fresh ⟨o, ho⟩
    exact h.same ((husers.trans hfree).trans (.of_trees hsame))
  · have hused : profile.used = bufferProfileInit.used := by
      rw [hfold htaken.1]
      exact profileOf_used _
    exact (insertProfileNode_users h husers hget hused htaken.2.2.2 rfl).same (.of_trees hsame)

/-! ## A profile goes -/

section Remove

variable {profile_id : Oid} {ptr : Nat} {profile : BufferProfile}

structure ProfileGone (profile_id : Oid) (ptr : Nat) (db db' : QosDb) : Prop where
  tree : ∀ o q, db'.profile_tree o = some q ↔ o ≠ profile_id ∧ db.profile_tree o = some q
  node : ∀ q, q ≠ ptr → db'.profiles.get q = db.profiles.get q
  ne : ∀ o q, o ≠ profile_id → db.profile_tree o = some q → q ≠ ptr

theorem bufferProfileNodeRemoveFromTree_gone (h : UsersLinked db)
    (hptr : db.profile_tree profile_id = some ptr) (hget : db.profiles.get ptr = some profile)
    (hnum : profile.num_ref = 0) :
    ProfileGone profile_id ptr db
      (freeBufferProfile ptr (bufferProfileNodeRemoveFromTree ptr profile db)) := by
  obtain ⟨profile', hget', hid, -⟩ := h.node _ ptr hptr
  obtain rfl := Option.some.inj (hget'.symm.trans hget)
  simp only [bufferProfileNodeRemoveFromTree]
  rw [if_ok hnum, hid]
  refine ⟨fun o q => ?_, fun q hq => Heap.get_free_of_ne _ hq, ?_⟩
  · show (if o = profile_id then none else db.profile_tree o) = some q ↔ _
    by_cases ho : o = profile_id
    · rw [if_pos ho]
      exact iff_of_false (by simp) fun hno => hno.1 ho
    · rw [if_neg ho]
      exact (and_iff_right ho).symm
  · rintro o q ho hq rfl
    exact ho (h.inj o _ q hq hptr)

theorem ProfileGone.users {db'} (hgone : ProfileGone profile_id ptr db db')
    (h : UsersLinked db) (hunused : ∀ o, getBufferProfileId db o ≠ some profile_id)
    (husers : ∀ o, getBufferProfileId db' o = getBufferProfileId db o) : UsersLinked db' := by
  have hnode : ∀ o p, db'.profileNodeGet o = some p →
      o ≠ profile_id ∧ db.profileNodeGet o = some p := by
    intro o p hp
    obtain ⟨q, hq, hgetq⟩ := Option.bind_eq_some_iff.mp hp
    obtain ⟨ho, htree⟩ := (hgone.tree o q).mp hq
    rw [hgone.node q (hgone.ne o q ho htree)] at hgetq
    exact ⟨ho, Option.bind_eq_some_iff.mpr ⟨q, htree, hgetq⟩⟩
  constructor
  · intro o q hq
    obtain ⟨ho, htree⟩ := (hgone.tree o q).mp hq
    rw [hgone.node q (hgone.ne o q ho htree)]
    exact h.node o q htree
  · intro o p hp type
    obtain ⟨hnodup, hmem⟩ := h.users o p (hnode o p hp).2 _
    exact ⟨hnodup, fun u => by rw [husers u]; exact hmem u⟩
  · exact fun o p hp => h.num_ref o p (hnode o p hp).2
  · intro u o hu
    rw [husers u] at hu
    refine (h.known u o hu).imp_right fun hlive => ?_
    obtain ⟨p, hp⟩ := Option.isSome_iff_exists.mp hlive
    obtain ⟨q, hq, hgetq⟩ := Option.bind_eq_some_iff.mp hp
    have ho : o ≠ profile_id := by
      rintro rfl
      exact hunused u hu
    unfold profileNodeGet
    rw [(hgone.tree o q).mpr ⟨ho, hq⟩, Option.bind_some, hgone.node q (hgone.ne o q ho hq), hgetq]
    rfl

end Remove

theorem removeBufferProfile_users (h : UsersLinked db) {env} {profile_id} :
    UsersLinked (removeBufferProfile env profile_id db).2 := by
  obtain ⟨-, ⟨-, hsame⟩ | ⟨hok, ptr, profile, mid, hptr, hget, hnum, hmid, hsame⟩⟩ :=
    removeBufferProfile_cases
  · exact h.same (.of_trees hsame)
  have hunused := ((h.removes env _).mp hok).2.1
  have hmidusers := UsersSame.of_trees hmid
  rw [← hmid.profile_tree] at hptr
  rw [← hmid.profiles] at hget
  refine UsersLinked.same (.of_trees hsame) ?_
  refine (bufferProfileNodeRemoveFromTree_gone (h.same hmidusers) hptr hget hnum).users
    (h.same hmidusers) (fun o => ?_) fun o => ?_
  · rw [hmidusers.users]
    exact hunused o
  · simp only [bufferProfileNodeRemoveFromTree]
    rw [if_ok hnum]
    rfl

theorem objUpdateBufferProfile_users (h : UsersLinked db) {env} {object_id profile_id} :
    UsersLinked (objUpdateBufferProfile env object_id profile_id db).2 := by
  rcases objUpdateBufferProfile_cases env _ _ db with
    ⟨-, hsame⟩ | ⟨-, -, heq⟩ | ⟨-, old_profile_id, profile, old_profile, tmp_size, is_add, applied, hset⟩
  · exact h.same (.of_trees hsame)
  · rw [heq]
    exact h
  have happlied := h.same (.of_trees hset.call)
  obtain ⟨hnew, old, hold, heq⟩ := objUpdateBufferProfileNode_ok hset.update
  have hold' : some old = some old_profile_id := by
    rw [← hold, (UsersSame.of_trees hset.call).users, hset.old]
  cases hold'
  have hlinked := happlied.relink hold hset.ne hnew (relinkUser_spec happlied hold hset.ne)
  rw [← heq] at hlinked
  exact hlinked.same ((objBufferProfileRecalc_users env _ _ _ _ _ _ _).trans
    (.of_trees hset.recalc))

/-! ## Runs -/

/-- No pools and no profiles, and users that name none. -/
structure NoBuffers (db : QosDb) : Prop where
  pools : ∀ o, db.pools o = none
  profiles : ∀ o, db.profile_tree o = none
  users : ∀ o profile_id, getBufferProfileId db o = some profile_id → profile_id = .null

theorem NoBuffers.get (h : NoBuffers db) (o) : db.profileNodeGet o = none := by
  unfold profileNodeGet
  rw [h.profiles]
  rfl

theorem UsersLinked.initial (h : NoBuffers db) : UsersLinked db := by
  constructor
  · intro o ptr hptr
    rw [h.profiles] at hptr
    cases hptr
  · intro o p hp
    rw [h.get] at hp
    cases hp
  · intro o p hp
    rw [h.get] at hp
    cases hp
  · exact fun o id ho => .inl (h.users o id ho)

theorem noBuffers_initial : NoBuffers .initial := by
  refine ⟨fun _ => rfl, fun _ => rfl, fun o profile_id ho => ?_⟩
  unfold getBufferProfileId at ho
  split at ho <;> cases ho

theorem bufferStep_users (h : UsersLinked db) {c} :
    UsersLinked (bufferStep c db) := by
  obtain ⟨env, op⟩ := c
  cases op with
  | createPool attr_list => exact h.same (createBufferPool_users env)
  | removePool pool_id => exact h.same (removeBufferPool_users env _)
  | setPool pool_id attr => exact h.same (bufferPoolAttrSet_users env _)
  | getPool pool_id attr_list => exact h.same (.of_trees (bufferPoolAttrGet_trees ..))
  | createProfile attr_list => exact createBufferProfile_users h
  | removeProfile profile_id => exact removeBufferProfile_users h
  | setProfile profile_id attr => exact h.same (bufferProfileAttrSet_users env _ _)
  | getProfile profile_id ids => exact h.same (.of_trees (bufferProfileAttrGet_trees ..))
  | updateUser object_id profile_id => exact objUpdateBufferProfile_users h

/-- **In any run** the lists and counts of users are exact. -/
theorem usersLinked_of_run {db₀} (hnone : NoBuffers db₀)
    (hrun : Run bufferStep (fun _ _ => True) db₀ db) : UsersLinked db := by
  refine hrun.induct (P := UsersLinked) ?_ (.initial hnone)
  exact fun c _ h _ => bufferStep_users h

/-- A pool and a profile in it. -/
def onePoolProfile : QosDb :=
  bufferStep ⟨.good 4, .createProfile [.poolId ⟨.bufferPool, 3⟩, .sharedDynamicTh 1]⟩
    (bufferStep ⟨.good 3, .createPool [.size 100]⟩ .initial)

theorem usersLinked_of_run_profile : UsersLinked onePoolProfile :=
  usersLinked_of_run noBuffers_initial (.snoc _ (.one _ trivial) trivial)

end OpxSai
