import OpxSai.Qos.BufferUsers

/-!
# The links between pools, profiles and their users

A new profile goes on the list of its pool while its attributes are parsed. When a later step of the
create fails the node is given back and stays on the list.

* `bufferLinks_of_run` — the same for every call, in any run.
-/

namespace OpxSai

open QosDb
variable {env : QosEnv} {pool_id profile_id : Oid} {member : Nat → Prop} {ptr : Nat}
variable {profile : BufferProfile} {updated : QosDb} {db : QosDb}

/-! ## Calls that keep the lists -/

namespace BuffersLinked

variable {db' : QosDb}

theorem of_trees (hsame : TreesSame db db') (h : BuffersLinked db) : BuffersLinked db' :=
  h.of_plain (.of_trees hsame)

theorem poolRecalc (h : BuffersLinked db) (pool_id) (size : BitVec 32) (is_add : Bool) :
    BuffersLinked (bufferPoolSizeRecalc env pool_id size is_add db).2 := by
  rcases bufferPoolSizeRecalc_cases env _ _ _ db with ⟨-, hsame⟩ | ⟨-, -, -, -, hsame⟩
  · exact h.of_trees hsame
  · refine BuffersLinked.of_trees hsame (h.same (.setBufferPool _) ?_)
    exact .setBufferPool fun _ _ => rfl

theorem profileRecalc (h : BuffersLinked db) (env) (attr)
    (old_pool_id pool_id) (buf_size : BitVec 32) (is_add : Bool) :
    BuffersLinked (bufferProfileRecalc env attr old_pool_id pool_id buf_size is_add db) :=
  bufferProfileRecalc_keeps (fun _ _ _ _ h => h.poolRecalc _ _ _) _ _ _
    _ _ h

theorem userRecalc (h : BuffersLinked db) (env) (old_pool_id new_pool_id)
    (old_size new_size tmp_size : BitVec 32) (is_add : Bool) :
    BuffersLinked (objBufferProfileRecalc env old_pool_id new_pool_id old_size new_size tmp_size is_add
      db) :=
  objBufferProfileRecalc_keeps (fun _ _ _ _ h => h.poolRecalc _ _ _) _ _
    _ _ _ _ h

theorem createPool (h : BuffersLinked db) {attr_list} :
    BuffersLinked (createBufferPool env attr_list db).2 := by
  rcases createBufferPool_cases with
    ⟨-, hsame⟩ | ⟨-, hnone, pool, pool', hshared, -, hnum, hlist, hsame⟩
  · exact h.of_plain hsame
  refine BuffersLinked.of_plain hsame ?_
  have hne : uoidCreate .bufferPool env.hw_pool_id ≠ .null :=
    fun heq => absurd (congrArg Oid.type heq) (by simp [uoidCreate, Oid.null])
  generalize uoidCreate _ _ = pool_id at hnone hne ⊢
  have hnum' : ({ pool' with wred_id := .null } : BufferPool).num_ref = 0 := by
    rw [hshared.shared]
    exact hnum
  have hlist' : ({ pool' with wred_id := .null } : BufferPool).buffer_profiles = [] := by
    rw [hshared.shared]
    exact hlist
  generalize ({ pool' with wred_id := .null } : BufferPool) = new at hnum' hlist' ⊢
  have hpool : ∀ o pool, (insertPoolNode pool_id new db).pools o = some pool →
      (o = pool_id ∧ pool = new) ∨ (o ≠ pool_id ∧ db.pools o = some pool) := by
    intro o pool hread
    have hread' : (if o = pool_id then some new else db.pools o) = some pool := hread
    split at hread'
    next ho => exact .inl ⟨ho, (Option.some.inj hread').symm⟩
    next ho => exact .inr ⟨ho, hread'⟩
  have hlive : ∀ o, (db.pools o).isSome = true →
      ((insertPoolNode pool_id new db).pools o).isSome = true := by
    intro o ho
    show (if o = pool_id then some new else db.pools o).isSome = true
    split
    · rfl
    · exact ho
  have husers : UsersSame db (insertPoolNode pool_id new db) := ⟨rfl, fun _ _ => rfl, fun _ => rfl⟩
  refine ⟨h.users.same husers, ?_⟩
  constructor
  · intro o ho
    by_cases heq : o = pool_id
    · rw [heq]
      exact hne
    refine h.pools.ne_null o ?_
    have ho' : (if o = pool_id then some new else db.pools o).isSome = true := ho
    rwa [if_neg heq] at ho'
  · intro o pool hread
    rcases hpool o pool hread with ⟨-, rfl⟩ | ⟨-, hold⟩
    · rw [hlist']
      exact List.nodup_nil
    · exact h.pools.nodup o _ hold
  · intro o pool hread
    rcases hpool o pool hread with ⟨-, rfl⟩ | ⟨-, hold⟩
    · rw [hnum', hlist']
      rfl
    · exact h.pools.num_ref o _ hold
  · intro o pool hread ptr
    rcases hpool o pool hread with ⟨rfl, rfl⟩ | ⟨-, hold⟩
    · rw [hlist']
      refine iff_of_false (by simp) ?_
      -- no profile names a pool before it is there
      rintro ⟨hptr, profile, hget, hid⟩
      rcases h.pools.known ptr _ hptr hget with hnull | hsome
      · exact hne (hid.symm.trans hnull)
      · rw [hid, hnone] at hsome
        cases hsome
    · exact h.pools.mem o _ hold ptr
  · intro ptr profile hptr hget
    exact (h.pools.known ptr _ hptr hget).imp_right (hlive _)

theorem removePool (h : BuffersLinked db) :
    BuffersLinked (removeBufferPool env pool_id db).2 := by
  obtain ⟨hiff, ⟨-, hsame⟩ | ⟨hok, hsame⟩⟩ := removeBufferPool_cases
  · exact h.of_trees hsame
  refine BuffersLinked.of_trees hsame ?_
  obtain ⟨gone, hgone, hnum, -⟩ := hiff.mp hok
  rw [h.pools.num_ref _ _ hgone, List.length_eq_zero_iff] at hnum
  have hpool : ∀ o, (removePoolNode pool_id db).pools o = if o = pool_id then none else db.pools o :=
    fun _ => rfl
  have hold : ∀ o pool, (removePoolNode pool_id db).pools o = some pool → db.pools o = some pool := by
    intro o pool hread
    rw [hpool] at hread
    split at hread
    · cases hread
    · exact hread
  have husers : UsersSame db (removePoolNode pool_id db) := ⟨rfl, fun _ _ => rfl, fun _ => rfl⟩
  refine ⟨h.users.same husers, ?_⟩
  constructor
  · intro o ho
    obtain ⟨pool, hread⟩ := Option.isSome_iff_exists.mp ho
    exact h.pools.ne_null o (by rw [hold o pool hread]; rfl)
  · exact fun o pool hread => h.pools.nodup o _ (hold o pool hread)
  · exact fun o pool hread => h.pools.num_ref o _ (hold o pool hread)
  · exact fun o pool hread ptr => h.pools.mem o _ (hold o pool hread) ptr
  · intro ptr profile hptr hget
    refine (h.pools.known ptr _ hptr hget).imp_right fun hlive => ?_
    rw [hpool, if_neg]
    · exact hlive
    intro heq
    have hin := (h.pools.mem _ _ hgone ptr).mpr ⟨hptr, profile, hget, heq⟩
    rw [hnum] at hin
    simp at hin

theorem setPool (h : BuffersLinked db) {attr} :
    BuffersLinked (bufferPoolAttrSet env pool_id attr db).2 := by
  rcases bufferPoolAttrSet_cases env _ _ db with
    ⟨hsame, -⟩ | ⟨-, pool, pool', u32, -, hpool, hshared, hsame⟩
  · exact h.of_plain hsame
  · refine (h.same (.setBufferPool _) (.setBufferPool ?_)).of_trees hsame
    intro pool₀ hpool₀
    obtain rfl := Option.some.inj (hpool₀.symm.trans hpool)
    rw [hshared.shared]
    rfl

theorem removeProfile (h : BuffersLinked db) :
    BuffersLinked (removeBufferProfile env profile_id db).2 := by
  refine ⟨removeBufferProfile_users h.users, ?_⟩
  obtain ⟨-, ⟨-, hsame⟩ | ⟨-, ptr, profile, mid, hptr, hget, hnum, hmid, hsame⟩⟩ :=
    removeBufferProfile_cases
  · exact (h.of_trees hsame).pools
  replace h := h.of_trees hmid
  rw [← hmid.profile_tree] at hptr
  rw [← hmid.profiles] at hget
  have hgone := bufferProfileNodeRemoveFromTree_gone h.users hptr hget hnum
  have hpools : (freeBufferProfile ptr (bufferProfileNodeRemoveFromTree ptr profile mid)).pools =
      (leaveBufferPool ptr profile.buffer_pool_id mid).pools := by
    simp only [bufferProfileNodeRemoveFromTree]
    rw [if_ok hnum]
    rfl
  generalize freeBufferProfile _ _ = after at *
  refine PoolsLinkedFor.same (.of_trees hsame) ?_
  have hleft := h.pools.leave hget ⟨profile_id, hptr⟩
  have hlinked : PoolsLinkedFor (fun q => InProfileTree mid q ∧ q ≠ ptr) after :=
    hleft.same ⟨fun o => by rw [hpools], fun q hq => by rw [hgone.node q hq.2]; rfl⟩
  refine hlinked.congr fun q => ?_
  unfold InProfileTree
  rw [hsame.profile_tree]
  constructor
  · rintro ⟨⟨o, ho⟩, hne⟩
    refine ⟨o, (hgone.tree o q).mpr ⟨?_, ho⟩⟩
    rintro rfl
    exact hne (Option.some.inj (ho.symm.trans hptr))
  · rintro ⟨o, ho⟩
    obtain ⟨hne, htree⟩ := (hgone.tree o q).mp ho
    exact ⟨⟨o, htree⟩, hgone.ne o q hne htree⟩

theorem setProfile (h : BuffersLinked db) {attr} :
    BuffersLinked (bufferProfileAttrSet env profile_id attr db).2 := by
  rcases bufferProfileAttrSet_cases env profile_id attr db with
    ⟨-, hsame⟩ | ⟨-, ptr, profile, buf_size, is_add, checked, stored, hset⟩
  · exact h.of_trees hsame
  refine BuffersLinked.of_trees hset.recalc (BuffersLinked.profileRecalc ?_ env attr _ _ buf_size is_add)
  have hstored := h.of_trees hset.users
  have hptr : InProfileTree stored ptr := ⟨profile_id, by rw [hset.users.profile_tree, hset.tree]⟩
  have hget : stored.profiles.get ptr = some profile := by rw [hset.users.profiles, hset.node]
  have husers := updateBufferProfileNode_users ptr [attr] 0 stored
  obtain ⟨profile', hget', -⟩ := updateBufferProfileNode_get _ 0 _ _ hget
  obtain ⟨hlinked, -⟩ :=
    updateBufferProfileNode_linked hptr _ 0 _ _ _ hstored.pools hget hget'
  refine ⟨hstored.users.same husers, hlinked.congr fun q => ?_⟩
  unfold InProfileTree
  rw [husers.tree]

theorem updateUser (h : BuffersLinked db) {object_id} :
    BuffersLinked (objUpdateBufferProfile env object_id profile_id db).2 := by
  rcases objUpdateBufferProfile_cases env _ _ db with
    ⟨-, hsame⟩ | ⟨-, -, heq⟩ | ⟨-, old_profile_id, profile, old_profile, tmp_size, is_add, applied, hset⟩
  · exact h.of_trees hsame
  · rw [heq]
    exact h
  refine BuffersLinked.of_trees hset.recalc (BuffersLinked.userRecalc ?_ env _ _ _ _ tmp_size is_add)
  have happlied := h.of_trees hset.call
  obtain ⟨hnew, old, hold, heq⟩ := objUpdateBufferProfileNode_ok hset.update
  have hold' : some old = some old_profile_id := by
    rw [← hold, (UsersSame.of_trees hset.call).users, hset.old]
  cases hold'
  rw [heq]
  have hre := relinkUser_spec happlied.users hold hset.ne
  refine ⟨happlied.users.relink hold hset.ne hnew hre, ?_⟩
  refine (happlied.pools.same hre.poolsSame).congr fun q => ?_
  unfold InProfileTree
  rw [hre.tree]

end BuffersLinked

/-! ## The create of a profile -/

/-- A create that is refused at once, or ends before a pool takes the profile, or goes through. -/
def ProfileCreateOk (env : QosEnv) (attr_list : List ProfileAttr) (db : QosDb) : Prop :=
  (bufferProfileAttributesValidate env attr_list .create db).1 ≠ .success ∨
  joinsPool db attr_list = false ∨
  ((∀ attr ∈ attr_list, profileAttrParses db attr = true) ∧
    ProfileCreateTaken env (profileOf attr_list) db)

theorem PoolsLinkedFor.unlisted
    (hget : db.profiles.get ptr = some profile) (hnull : profile.buffer_pool_id = .null) :
    PoolsLinkedFor (fun q => member q ∨ q = ptr) db ↔ PoolsLinkedFor member db := by
  have hmem : (∀ o, (db.pools o).isSome = true → o ≠ .null) → ∀ o pool, db.pools o = some pool → ∀ q,
      ((member q ∨ q = ptr) ∧ ∃ profile, db.profiles.get q = some profile ∧ profile.buffer_pool_id = o) ↔
        (member q ∧ ∃ profile, db.profiles.get q = some profile ∧ profile.buffer_pool_id = o) := by
    intro hne o pool hpool q
    refine and_congr_left fun hnode => or_iff_left_of_imp ?_
    rintro rfl
    obtain ⟨profile', hget', hid⟩ := hnode
    obtain rfl := Option.some.inj (hget'.symm.trans hget)
    exact absurd (hid.symm.trans hnull) (hne o (by rw [hpool]; rfl))
  constructor
  · intro h
    refine ⟨h.ne_null, h.nodup, h.num_ref, fun o pool hpool q => ?_, ?_⟩
    · exact (h.mem o _ hpool q).trans (hmem h.ne_null o pool hpool q)
    · exact fun q profile' hq hget' => h.known q _ (.inl hq) hget'
  · intro h
    refine ⟨h.ne_null, h.nodup, h.num_ref, fun o pool hpool q => ?_, ?_⟩
    · exact (h.mem o _ hpool q).trans (hmem h.ne_null o pool hpool q).symm
    · intro q profile' hq hget'
      rcases hq with hq | rfl
      · exact h.known q _ hq hget'
      · obtain rfl := Option.some.inj (hget'.symm.trans hget)
        exact .inl hnull

theorem ProfileStart.linked {start} (hstart : ProfileStart db start) (h : BuffersLinked db) :
    PoolsLinkedFor (fun ptr => InProfileTree db ptr ∨ ptr = db.profiles.next) start := by
  refine (PoolsLinkedFor.unlisted hstart.get rfl).mpr (h.pools.same ⟨fun o => ?_, fun ptr hptr => ?_⟩)
  · rw [hstart.pools]
  · rw [hstart.get_old h.users hptr]

theorem insertProfileNode_linked (htree : ∀ q, InProfileTree updated q ↔ member q)
    (hnone : updated.profile_tree profile_id = none)
    (hlinked : PoolsLinkedFor (fun q => member q ∨ q = ptr) updated) :
    PoolsLinked (insertProfileNode ptr profile_id updated) := by
  have hsame : PoolsSameFor (fun q => member q ∨ q = ptr) updated
      (insertProfileNode ptr profile_id updated) :=
    ⟨fun _ => rfl, (PoolsSameFor.setBufferProfile
      (f := fun profile => { profile with profile_id := profile_id }) fun _ => rfl).nodes⟩
  refine (hlinked.same hsame).congr fun q => ?_
  rw [← htree]
  constructor
  · rintro (⟨o, ho⟩ | rfl)
    · refine ⟨o, (if_neg ?_).trans ho⟩
      rintro rfl
      rw [hnone] at ho
      cases ho
    · exact ⟨profile_id, if_pos rfl⟩
  · rintro ⟨o, ho⟩
    have ho' : (if o = profile_id then some ptr else updated.profile_tree o) = some q := ho
    split at ho'
    · exact .inr (Option.some.inj ho').symm
    · exact .inl ⟨o, ho'⟩

theorem freeBufferProfile_linked (h : BuffersLinked db)
    (husers : UsersSame db updated) (hget : updated.profiles.get db.profiles.next = some profile)
    (hlinked : PoolsLinkedFor (fun ptr => InProfileTree db ptr ∨ ptr = db.profiles.next) updated) :
    BuffersLinked (freeBufferProfile db.profiles.next updated) ↔ profile.buffer_pool_id = .null := by
  have hfresh := h.users.fresh
  have htree : ∀ q, InProfileTree updated q ↔ InProfileTree db q := by
    intro q
    unfold InProfileTree
    rw [husers.tree]
  generalize db.profiles.next = ptr at *
  have hfree : ∀ q, InProfileTree db q →
      (freeBufferProfile ptr updated).profiles.get q = updated.profiles.get q := by
    intro q hq
    refine Heap.get_free_of_ne _ ?_
    rintro rfl
    exact hfresh hq
  constructor
  · intro hafter
    by_contra hne
    have hlive := (hlinked.known ptr _ (.inr rfl) hget).resolve_left hne
    obtain ⟨pool, hpool⟩ := Option.isSome_iff_exists.mp hlive
    have hin := (hlinked.mem _ _ hpool ptr).mpr ⟨.inr rfl, profile, hget, rfl⟩
    have hpool' : (freeBufferProfile ptr updated).pools profile.buffer_pool_id = some pool := hpool
    obtain ⟨hptr, -⟩ := (hafter.pools.mem _ _ hpool' ptr).mp hin
    exact hfresh ((htree ptr).mp hptr)
  · intro hnull
    constructor
    · refine h.users.same (husers.trans (.of_objects rfl (fun q hq => ?_) rfl rfl rfl))
      rw [hfree q ((htree q).mp hq)]
    · have hsame : PoolsSameFor (InProfileTree db) updated (freeBufferProfile ptr updated) :=
        ⟨fun _ => rfl, fun q hq => by rw [hfree q hq]⟩
      refine PoolsLinkedFor.congr ?_ (PoolsLinkedFor.same hsame
        ((PoolsLinkedFor.unlisted hget hnull).mp hlinked))
      exact fun q => (htree q).symm

/-- **A create of a profile** keeps the lists right exactly when it meets the condition. -/
theorem createBufferProfile_linked (h : BuffersLinked db) {attr_list} :
    BuffersLinked (createBufferProfile env attr_list db).2 ↔ ProfileCreateOk env attr_list db := by
  rcases createBufferProfile_cases env attr_list db with ⟨-, hsame, hvalid⟩ | ⟨hvalid, start, hstart, hcase⟩
  · exact iff_of_true (h.of_trees hsame) (.inl hvalid)
  obtain ⟨profile, hget, hfold⟩ :=
    updateBufferProfileNode_get attr_list 0 start bufferProfileInit hstart.get
  obtain ⟨hlinked, hnull⟩ :=
    @updateBufferProfileNode_linked _ (fun ptr => InProfileTree db ptr ∨ ptr = db.profiles.next)
      (.inr rfl) attr_list 0 start bufferProfileInit profile (hstart.linked h) hstart.get hget
  have husers := updateBufferProfileNode_users db.profiles.next attr_list 0 start
  have hok := updateBufferProfileNode_ok db.profiles.next attr_list 0 start
  have hlive : ∀ o, (start.pools o).isSome = (db.pools o).isSome := fun o => by rw [hstart.pools]
  have hjoins : profile.buffer_pool_id = .null ↔ joinsPool db attr_list = false := by
    rw [hnull, joinsPool_congr hlive]
    exact and_iff_right rfl
  have hparses : (updateBufferProfileNode db.profiles.next 0 attr_list start).1 = .success ↔
      ∀ attr ∈ attr_list, profileAttrParses db attr = true := by
    rw [hok]
    exact forall₂_congr fun attr _ => by rw [profileAttrParses_congr hlive]
  simp only at hcase
  generalize updateBufferProfileNode _ 0 _ _ = updated at *
  replace husers := (hstart.users h.users).trans husers
  have htree : ∀ q, InProfileTree updated.2 q ↔ InProfileTree db q := by
    intro q
    unfold InProfileTree
    rw [husers.tree]
  -- what was parsed is what the NPU is asked to create
  have htaken : updated.1 = .success ∧
      ProfileCreateTaken env ((updated.2.profiles.get db.profiles.next).getD bufferProfileInit) db ↔
      (∀ attr ∈ attr_list, profileAttrParses db attr = true) ∧
        ProfileCreateTaken env (profileOf attr_list) db := by
    rw [← hparses]
    refine and_congr_right fun hsuccess => ?_
    rw [hget, hfold hsuccess]
    rfl
  unfold ProfileCreateOk
  rcases hcase with ⟨-, hnot, hsame⟩ | ⟨-, hyes, hsame⟩
  · rw [htaken] at hnot
    have hiff := (freeBufferProfile_linked h husers hget hlinked).trans hjoins
    constructor
    · intro hafter
      refine .inr (.inl (hiff.mp ?_))
      exact hafter.of_trees hsame.symm
    · rintro (hbad | hjoin | hyes)
      · exact absurd hvalid hbad
      · exact (hiff.mpr hjoin).of_trees hsame
      · exact absurd hyes hnot
  · have hused : profile.used = bufferProfileInit.used := by
      rw [hfold hyes.1]
      exact profileOf_used attr_list
    rw [htaken] at hyes
    refine iff_of_true (BuffersLinked.of_trees hsame ⟨?_, ?_⟩) (.inr (.inr hyes))
    · exact insertProfileNode_users h.users husers hget hused hyes.2.2.2 rfl
    · exact insertProfileNode_linked htree (by rw [husers.tree]; exact hyes.2.2.2) hlinked

/-! ## Runs -/

/-- The condition on a call: a profile that is created may not fail once a pool has taken it. -/
def BufferLinkOk (c : BufferCall) (db : QosDb) : Prop :=
  match c.op with
  | .createProfile attr_list => ProfileCreateOk c.env attr_list db
  | _ => True

theorem BuffersLinked.initial (h : NoBuffers db) : BuffersLinked db := by
  have hpool : ∀ o pool, db.pools o ≠ some pool := by
    intro o pool hpool
    rw [h.pools] at hpool
    cases hpool
  refine ⟨.initial h, ?_⟩
  constructor
  · intro o ho
    rw [h.pools] at ho
    cases ho
  · exact fun o pool hread => absurd hread (hpool o pool)
  · exact fun o pool hread => absurd hread (hpool o pool)
  · exact fun o pool hread => absurd hread (hpool o pool)
  · rintro ptr profile ⟨o, ho⟩
    rw [h.profiles] at ho
    cases ho

theorem bufferStep_linked (h : BuffersLinked db) (c) :
    BuffersLinked (bufferStep c db) ↔ BufferLinkOk c db := by
  obtain ⟨env, op⟩ := c
  cases op with
  | createPool attr_list => exact iff_of_true h.createPool trivial
  | removePool pool_id => exact iff_of_true h.removePool trivial
  | setPool pool_id attr => exact iff_of_true h.setPool trivial
  | getPool pool_id attr_list => exact iff_of_true (h.of_trees (bufferPoolAttrGet_trees ..)) trivial
  | createProfile attr_list => exact createBufferProfile_linked h
  | removeProfile profile_id => exact iff_of_true h.removeProfile trivial
  | setProfile profile_id attr => exact iff_of_true h.setProfile trivial
  | getProfile profile_id ids => exact iff_of_true (h.of_trees (bufferProfileAttrGet_trees ..)) trivial
  | updateUser object_id profile_id => exact iff_of_true h.updateUser trivial

/-- **Any run** of calls that meet the condition: the lists are right, no list holds a node that was
given back, a remove succeeds exactly when nothing refers to the object and the NPU removes it; and
the next call keeps the lists right exactly when it meets the condition. -/
theorem bufferLinks_of_run {db₀ db : QosDb} (hnone : NoBuffers db₀)
    (hrun : Run bufferStep BufferLinkOk db₀ db) :
    BuffersLinked db ∧ NoFreedProfile db ∧ RemovesExact db ∧
    ∀ c, BuffersLinked (bufferStep c db) ↔ BufferLinkOk c db := by
  have hlinked : BuffersLinked db := by
    refine hrun.induct (P := BuffersLinked) ?_ (.initial hnone)
    exact fun c _ h hok => (bufferStep_linked h c).mpr hok
  exact ⟨hlinked, hlinked.noFreed, hlinked.removes, bufferStep_linked hlinked⟩

def noProfileCreate : Outside QosCall := fun _ c =>
  match c with
  | .profileCreate _ => .failure
  | _ => .success

def onePort : QosDb :=
  { QosDb.initial with ports := fun o => if o = ⟨.port, 1⟩ then some ⟨.null⟩ else none }

theorem noBuffers_onePort : NoBuffers onePort := by
  refine ⟨fun _ => rfl, fun _ => rfl, fun o profile_id ho => ?_⟩
  unfold getBufferProfileId at ho
  split at ho
  · obtain ⟨user, huser, rfl⟩ := Option.map_eq_some_iff.mp ho
    have huser' : (if o = ⟨.port, 1⟩ then some (⟨.null⟩ : BufferUser) else none) = some user := huser
    split at huser'
    · cases huser'
      rfl
    · cases huser'
  · cases ho
  · cases ho
  · cases ho

theorem bufferLinks_of_run_port :
    let db₁ := bufferStep ⟨.good 3, .createPool [.size 100]⟩ onePort
    let db₂ := bufferStep ⟨.good 4, .createProfile [.poolId ⟨.bufferPool, 3⟩, .sharedDynamicTh 1]⟩ db₁
    let db := bufferStep ⟨.good 0, .updateUser ⟨.port, 1⟩ ⟨.bufferProfile, 4⟩⟩ db₂
    BuffersLinked db ∧ NoFreedProfile db ∧ RemovesExact db ∧
    ∀ c, BuffersLinked (bufferStep c db) ↔ BufferLinkOk c db := by
  intro db₁ db₂ db
  refine bufferLinks_of_run noBuffers_onePort (.snoc _ (.snoc _ (.one _ trivial) ?_) trivial)
  exact .inr (.inr ⟨by decide, rfl, rfl, rfl⟩)

/-- A profile that the NPU does not create stays on the list of pool 3, and the pool stays too. -/
theorem not_bufferLinks_create :
    ¬ (∀ db, Run bufferStep (fun _ _ => True) .initial db → NoFreedProfile db) ∧
    ¬ (∀ db, Run bufferStep (fun _ _ => True) .initial db → RemovesExact db) := by
  have hrun : Run bufferStep (fun _ _ => True) .initial
      (bufferStep ⟨.answers noProfileCreate 4,
          .createProfile [.poolId ⟨.bufferPool, 3⟩, .sharedDynamicTh 1]⟩
        (bufferStep ⟨.good 3, .createPool [.size 100]⟩ .initial)) :=
    .snoc _ (.one _ trivial) trivial
  constructor
  · intro h
    have hfreed := h _ hrun ⟨.bufferPool, 3⟩ _ rfl 1 (by decide)
    cases hfreed
  · intro h
    have hremove := ((h _ hrun).pool (.good 0) ⟨.bufferPool, 3⟩).mpr
    have hfail : (removeBufferPool (.good 0) ⟨.bufferPool, 3⟩
        (bufferStep ⟨.answers noProfileCreate 4,
            .createProfile [.poolId ⟨.bufferPool, 3⟩, .sharedDynamicTh 1]⟩
          (bufferStep ⟨.good 3, .createPool [.size 100]⟩ .initial))).1 ≠ .success := by decide
    refine hfail (hremove ⟨by decide, fun profile_id profile hprofile => ?_, rfl⟩)
    have hnone : (none : Option BufferProfile) = some profile := hprofile
    cases hnone

end OpxSai
