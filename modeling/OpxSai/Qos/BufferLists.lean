import OpxSai.Qos.BufferCases

/-!
# The lists of pools and profiles

A pool lists the profiles that name it, and a profile lists the users that name it. The lists change
where a profile goes to another pool and where a user goes to another profile.

* `BuffersLinked.removes` — then a remove succeeds when nothing refers to the object.
-/

namespace OpxSai

open QosDb

variable {db db' : QosDb} {ptr : Nat} {member : Nat → Prop}
variable {pool_id profile_id object_id old_profile_id : Oid}

/-! ## Property -/

variable {profile : BufferProfile} {o : Oid}

def BufferProfile.users (profile : BufferProfile) : ObjType → List Oid
  | .port => profile.ports
  | .queue => profile.queues
  | .ingressPriorityGroup => profile.pgs
  | _ => []

def InProfileTree (db : QosDb) (ptr : Nat) : Prop := ∃ profile_id, db.profile_tree profile_id = some ptr

/-- The lists of users are exact, and no user names a profile that is not there. -/
structure UsersLinked (db : QosDb) : Prop where
  node : ∀ profile_id ptr, db.profile_tree profile_id = some ptr →
    ∃ profile, db.profiles.get ptr = some profile ∧ profile.profile_id = profile_id ∧
      profile_id.type = .bufferProfile
  users : ∀ profile_id profile, db.profileNodeGet profile_id = some profile → ∀ type,
    (profile.users type).Nodup ∧
    ∀ o, o ∈ profile.users type ↔ o.type = type ∧ getBufferProfileId db o = some profile_id
  num_ref : ∀ profile_id profile, db.profileNodeGet profile_id = some profile →
    profile.num_ref = profile.ports.length + profile.queues.length + profile.pgs.length
  known : ∀ o profile_id, getBufferProfileId db o = some profile_id →
    profile_id = .null ∨ (db.profileNodeGet profile_id).isSome = true

/-- The lists of the pools are exact for some profiles, and none of these names a pool that is not
there. -/
structure PoolsLinkedFor (member : Nat → Prop) (db : QosDb) : Prop where
  ne_null : ∀ pool_id, (db.pools pool_id).isSome = true → pool_id ≠ .null
  nodup : ∀ pool_id pool, db.pools pool_id = some pool → pool.buffer_profiles.Nodup
  num_ref : ∀ pool_id pool, db.pools pool_id = some pool →
    pool.num_ref = pool.buffer_profiles.length
  mem : ∀ pool_id pool, db.pools pool_id = some pool → ∀ ptr, ptr ∈ pool.buffer_profiles ↔
    member ptr ∧ ∃ profile, db.profiles.get ptr = some profile ∧ profile.buffer_pool_id = pool_id
  known : ∀ ptr profile, member ptr → db.profiles.get ptr = some profile →
    profile.buffer_pool_id = .null ∨ (db.pools profile.buffer_pool_id).isSome = true

/-- The lists of the pools are exact for the profiles of the tree. -/
def PoolsLinked (db : QosDb) : Prop := PoolsLinkedFor (InProfileTree db) db

structure BuffersLinked (db : QosDb) : Prop where
  users : UsersLinked db
  pools : PoolsLinked db

/-- A remove succeeds exactly when nothing refers to the object and the NPU removes it. -/
structure RemovesExact (db : QosDb) : Prop where
  pool : ∀ env pool_id, (removeBufferPool env pool_id db).1 = .success ↔
    (db.pools pool_id).isSome = true ∧
    (∀ profile_id profile, db.profileNodeGet profile_id = some profile →
      profile.buffer_pool_id ≠ pool_id) ∧
    env.outside db.outside_log (.poolRemove pool_id) = .success
  profile : ∀ env profile_id, (removeBufferProfile env profile_id db).1 = .success ↔
    (db.profileNodeGet profile_id).isSome = true ∧
    (∀ o, getBufferProfileId db o ≠ some profile_id) ∧
    env.outside db.outside_log (.profileRemove profile_id) = .success

/-- No list of a pool holds a node that was given back. -/
def NoFreedProfile (db : QosDb) : Prop :=
  ∀ pool_id pool, db.pools pool_id = some pool → ∀ ptr ∈ pool.buffer_profiles,
    (db.profiles.get ptr).isSome = true

/-! ## What follows for removes -/

theorem BuffersLinked.noFreed (h : BuffersLinked db) : NoFreedProfile db := by
  intro pool_id pool hpool ptr hptr
  obtain ⟨-, profile, hprofile, -⟩ := (h.pools.mem _ _ hpool ptr).mp hptr
  rw [hprofile]
  rfl

theorem BufferProfile.users_nil (hports : profile.ports = [])
    (hqueues : profile.queues = []) (hpgs : profile.pgs = []) (type) :
    profile.users type = [] := by
  unfold BufferProfile.users
  split
  · exact hports
  · exact hqueues
  · exact hpgs
  · rfl

theorem PoolsLinked.removes (h : PoolsLinked db) (env) (pool_id) :
    (removeBufferPool env pool_id db).1 = .success ↔ (db.pools pool_id).isSome = true ∧
    (∀ profile_id profile, db.profileNodeGet profile_id = some profile →
      profile.buffer_pool_id ≠ pool_id) ∧
    env.outside db.outside_log (.poolRemove pool_id) = .success := by
  obtain ⟨hiff, -⟩ := removeBufferPool_cases
  refine hiff.trans ?_
  constructor
  · rintro ⟨pool, hpool, hnum, hok⟩
    refine ⟨by rw [hpool]; rfl, ?_, hok⟩
    intro profile_id profile hprofile hpoolid
    obtain ⟨ptr, hptr, hget⟩ := Option.bind_eq_some_iff.mp hprofile
    have hmem : ptr ∈ pool.buffer_profiles :=
      (h.mem _ _ hpool ptr).mpr ⟨⟨profile_id, hptr⟩, profile, hget, hpoolid⟩
    rw [h.num_ref _ _ hpool] at hnum
    rw [List.length_eq_zero_iff.mp hnum] at hmem
    simp at hmem
  · rintro ⟨hlive, hnone, hok⟩
    obtain ⟨pool, hpool⟩ := Option.isSome_iff_exists.mp hlive
    refine ⟨pool, hpool, ?_, hok⟩
    rw [h.num_ref _ _ hpool, List.length_eq_zero_iff, List.eq_nil_iff_forall_not_mem]
    intro ptr hmem
    obtain ⟨⟨profile_id, hptr⟩, profile, hget, hpoolid⟩ := (h.mem _ _ hpool ptr).mp hmem
    exact hnone profile_id profile (Option.bind_eq_some_iff.mpr ⟨ptr, hptr, hget⟩) hpoolid

theorem UsersLinked.removes (h : UsersLinked db) (env) (profile_id) :
    (removeBufferProfile env profile_id db).1 = .success ↔ (db.profileNodeGet profile_id).isSome = true ∧
    (∀ o, getBufferProfileId db o ≠ some profile_id) ∧
    env.outside db.outside_log (.profileRemove profile_id) = .success := by
  obtain ⟨hiff, -⟩ := removeBufferProfile_cases
  refine hiff.trans ?_
  constructor
  · rintro ⟨profile, hprofile, hnum, hok⟩
    refine ⟨by rw [hprofile]; rfl, ?_, hok⟩
    intro o ho
    rw [h.num_ref _ _ hprofile] at hnum
    have hmem := ((h.users _ _ hprofile _).2 o).mpr ⟨rfl, ho⟩
    have hports : profile.ports = [] := List.length_eq_zero_iff.mp (by omega)
    have hqueues : profile.queues = [] := List.length_eq_zero_iff.mp (by omega)
    have hpgs : profile.pgs = [] := List.length_eq_zero_iff.mp (by omega)
    rw [BufferProfile.users_nil hports hqueues hpgs] at hmem
    simp at hmem
  · rintro ⟨hlive, hnone, hok⟩
    obtain ⟨profile, hprofile⟩ := Option.isSome_iff_exists.mp hlive
    refine ⟨profile, hprofile, ?_, hok⟩
    have hempty : ∀ type, profile.users type = [] := fun type =>
      List.eq_nil_iff_forall_not_mem.mpr fun o ho =>
        hnone o (((h.users _ _ hprofile _).2 o).mp ho).2
    have hports : profile.ports = [] := hempty .port
    have hqueues : profile.queues = [] := hempty .queue
    have hpgs : profile.pgs = [] := hempty .ingressPriorityGroup
    rw [h.num_ref _ _ hprofile, hports, hqueues, hpgs]
    rfl

theorem BuffersLinked.removes (h : BuffersLinked db) : RemovesExact db :=
  ⟨h.pools.removes, h.users.removes⟩

/-! ## What the lists do not see -/

def BufferProfile.used (profile : BufferProfile) : Oid × Nat × List Oid × List Oid × List Oid :=
  (profile.profile_id, profile.num_ref, profile.ports, profile.queues, profile.pgs)

/-- The same users, the same profiles of the tree, and the same links between them. -/
structure UsersSame (db db' : QosDb) : Prop where
  tree : db'.profile_tree = db.profile_tree
  nodes : ∀ ptr, InProfileTree db ptr →
    (db'.profiles.get ptr).map BufferProfile.used = (db.profiles.get ptr).map BufferProfile.used
  users : ∀ o, getBufferProfileId db' o = getBufferProfileId db o

namespace UsersSame

theorem of_objects (htree : db'.profile_tree = db.profile_tree) (hnodes : ∀ ptr, InProfileTree db ptr →
      (db'.profiles.get ptr).map BufferProfile.used = (db.profiles.get ptr).map BufferProfile.used)
    (hports : db'.ports = db.ports) (hqueues : db'.queues = db.queues) (hpgs : db'.pgs = db.pgs) :
    UsersSame db db' := by
  refine ⟨htree, hnodes, fun o => ?_⟩
  unfold getBufferProfileId
  rw [hports, hqueues, hpgs]

theorem of_plain (h : PlainSame db db') : UsersSame db db' :=
  of_objects h.profile_tree (fun ptr _ => by rw [h.profiles]) h.ports h.queues h.pgs

theorem of_trees (h : TreesSame db db') : UsersSame db db' :=
  of_plain (.of_trees h)

theorem trans {db₁ db₂ db₃} (h : UsersSame db₁ db₂) (h' : UsersSame db₂ db₃) :
    UsersSame db₁ db₃ := by
  refine ⟨h'.tree.trans h.tree, fun ptr hptr => ?_, fun o => (h'.users o).trans (h.users o)⟩
  have hptr' : InProfileTree db₂ ptr := by
    obtain ⟨profile_id, hid⟩ := hptr
    exact ⟨profile_id, by rw [h.tree, hid]⟩
  exact (h'.nodes ptr hptr').trans (h.nodes ptr hptr)

theorem setBufferPool (f : BufferPool → BufferPool) :
    UsersSame db (setBufferPool pool_id f db) :=
  ⟨rfl, fun _ _ => rfl, fun _ => rfl⟩

theorem setBufferProfile {f : BufferProfile → BufferProfile}
    (hf : ∀ profile, (f profile).used = profile.used) : UsersSame db (setBufferProfile ptr f db) := by
  refine ⟨rfl, fun q _ => ?_, fun _ => rfl⟩
  exact congrArg (fun h : Heap _ => h.get q) (Heap.map_modify_of_comp hf _ ptr)

theorem moveBufferPool :
    UsersSame db (moveBufferPool ptr pool_id db) := by
  have hjoin : ∀ db, UsersSame db (joinBufferPool ptr pool_id db) := fun db =>
    (setBufferProfile (f := fun profile => { profile with buffer_pool_id := pool_id })
      fun _ => rfl).trans (setBufferPool _)
  simp only [OpxSai.moveBufferPool]
  split
  · exact (setBufferPool _).trans (hjoin _)
  · exact hjoin db

theorem get (h : UsersSame db db') (profile_id) :
    (db'.profileNodeGet profile_id).map BufferProfile.used =
      (db.profileNodeGet profile_id).map BufferProfile.used := by
  unfold profileNodeGet
  rw [h.tree]
  cases hptr : db.profile_tree profile_id with
  | none => rfl
  | some ptr => exact h.nodes ptr ⟨profile_id, hptr⟩

end UsersSame

theorem BufferProfile.users_of_used {profile' : BufferProfile}
    (h : profile'.used = profile.used) : profile'.users = profile.users := by
  simp only [BufferProfile.used, Prod.mk.injEq] at h
  obtain ⟨-, -, hports, hqueues, hpgs⟩ := h
  funext type
  unfold BufferProfile.users
  rw [hports, hqueues, hpgs]

theorem UsersLinked.same (hsame : UsersSame db db') (h : UsersLinked db) :
    UsersLinked db' := by
  have hback : ∀ profile_id profile', db'.profileNodeGet profile_id = some profile' →
      ∃ profile, db.profileNodeGet profile_id = some profile ∧ profile'.used = profile.used := by
    intro profile_id profile' hprofile'
    have hget := hsame.get profile_id
    rw [hprofile'] at hget
    obtain ⟨profile, hprofile, hused⟩ := Option.map_eq_some_iff.mp hget.symm
    exact ⟨profile, hprofile, hused.symm⟩
  constructor
  · intro profile_id ptr hptr
    rw [hsame.tree] at hptr
    obtain ⟨profile, hget, hid, htype⟩ := h.node _ ptr hptr
    have hnode := hsame.nodes ptr ⟨profile_id, hptr⟩
    rw [hget] at hnode
    obtain ⟨profile', hget', hused⟩ := Option.map_eq_some_iff.mp hnode
    refine ⟨profile', hget', ?_, htype⟩
    exact (congrArg (fun used => used.1) hused).trans hid
  · intro profile_id profile' hprofile' type
    obtain ⟨profile, hprofile, hused⟩ := hback profile_id profile' hprofile'
    rw [BufferProfile.users_of_used hused]
    obtain ⟨hnodup, hmem⟩ := h.users _ _ hprofile _
    exact ⟨hnodup, fun o => by rw [hsame.users o]; exact hmem o⟩
  · intro profile_id profile' hprofile'
    obtain ⟨profile, hprofile, hused⟩ := hback profile_id profile' hprofile'
    have hnum := h.num_ref _ _ hprofile
    simp only [BufferProfile.used, Prod.mk.injEq] at hused
    obtain ⟨-, hnum', hports, hqueues, hpgs⟩ := hused
    rw [hnum', hports, hqueues, hpgs]
    exact hnum
  · intro o profile_id ho
    rw [hsame.users o] at ho
    refine (h.known o _ ho).imp_right fun hlive => ?_
    have hget := congrArg Option.isSome (hsame.get profile_id)
    rw [Option.isSome_map, Option.isSome_map] at hget
    rw [hget, hlive]

def BufferPool.listed (pool : BufferPool) : Nat × List Nat := (pool.num_ref, pool.buffer_profiles)

structure PoolsSameFor (member : Nat → Prop) (db db' : QosDb) : Prop where
  pools : ∀ pool_id,
    (db'.pools pool_id).map BufferPool.listed = (db.pools pool_id).map BufferPool.listed
  nodes : ∀ ptr, member ptr → (db'.profiles.get ptr).map BufferProfile.buffer_pool_id =
    (db.profiles.get ptr).map BufferProfile.buffer_pool_id

namespace PoolsSameFor

theorem of_plain (h : PlainSame db db') : PoolsSameFor member db db' := by
  refine ⟨fun pool_id => ?_, fun ptr _ => by rw [h.profiles]⟩
  have hplain := congrArg (Option.map BufferPool.listed) (h.pools pool_id)
  rw [Option.map_map, Option.map_map] at hplain
  exact hplain

theorem of_trees (h : TreesSame db db') : PoolsSameFor member db db' :=
  of_plain (.of_trees h)

theorem setBufferPool {f : BufferPool → BufferPool}
    (hf : ∀ pool, db.pools pool_id = some pool → (f pool).listed = pool.listed) :
    PoolsSameFor member db (setBufferPool pool_id f db) := by
  refine ⟨fun o => ?_, fun _ _ => rfl⟩
  show (if o = pool_id then (db.pools o).map f else db.pools o).map _ = _
  split
  next ho =>
    subst ho
    cases hpool : db.pools o with
    | none => rfl
    | some pool => exact congrArg some (hf pool hpool)
  · rfl

theorem setBufferProfile {f : BufferProfile → BufferProfile}
    (hf : ∀ profile, (f profile).buffer_pool_id = profile.buffer_pool_id) :
    PoolsSameFor member db (setBufferProfile ptr f db) := by
  refine ⟨fun _ => rfl, fun q _ => ?_⟩
  exact congrArg (fun h : Heap _ => h.get q) (Heap.map_modify_of_comp hf _ ptr)

theorem pool (h : PoolsSameFor member db db') {pool'} (hpool' : db'.pools pool_id = some pool') :
    ∃ pool, db.pools pool_id = some pool ∧ pool'.num_ref = pool.num_ref ∧
      pool'.buffer_profiles = pool.buffer_profiles := by
  have hlisted := h.pools pool_id
  rw [hpool'] at hlisted
  obtain ⟨pool, hpool, heq⟩ := Option.map_eq_some_iff.mp hlisted.symm
  simp only [BufferPool.listed, Prod.mk.injEq] at heq
  exact ⟨pool, hpool, heq.1.symm, heq.2.symm⟩

theorem live (h : PoolsSameFor member db db') (pool_id) :
    (db'.pools pool_id).isSome = (db.pools pool_id).isSome := by
  have hlisted := congrArg Option.isSome (h.pools pool_id)
  rw [Option.isSome_map, Option.isSome_map] at hlisted
  exact hlisted

theorem node (h : PoolsSameFor member db db') (hptr : member ptr) :
    (∃ profile, db'.profiles.get ptr = some profile ∧ profile.buffer_pool_id = pool_id) ↔
      ∃ profile, db.profiles.get ptr = some profile ∧ profile.buffer_pool_id = pool_id := by
  rw [← Option.map_eq_some_iff, ← Option.map_eq_some_iff, h.nodes ptr hptr]

end PoolsSameFor

theorem PoolsLinkedFor.same (hsame : PoolsSameFor member db db') (h : PoolsLinkedFor member db) :
    PoolsLinkedFor member db' := by
  constructor
  · intro pool_id hlive
    rw [hsame.live _] at hlive
    exact h.ne_null _ hlive
  · intro pool_id pool' hpool'
    obtain ⟨pool, hpool, -, hlist⟩ := hsame.pool hpool'
    rw [hlist]
    exact h.nodup _ _ hpool
  · intro pool_id pool' hpool'
    obtain ⟨pool, hpool, hnum, hlist⟩ := hsame.pool hpool'
    rw [hnum, hlist]
    exact h.num_ref _ _ hpool
  · intro pool_id pool' hpool' ptr
    obtain ⟨pool, hpool, -, hlist⟩ := hsame.pool hpool'
    rw [hlist, h.mem _ _ hpool ptr]
    exact and_congr_right fun hptr => (hsame.node hptr).symm
  · intro ptr profile' hptr hget'
    obtain ⟨profile, hget, heq⟩ := (hsame.node hptr).mp ⟨profile', hget', rfl⟩
    rw [hsame.live, ← heq]
    exact h.known ptr _ hptr hget

theorem PoolsLinkedFor.congr {member' : Nat → Prop}
    (hmember : ∀ ptr, member ptr ↔ member' ptr) (h : PoolsLinkedFor member db) :
    PoolsLinkedFor member' db := by
  have heq : member = member' := funext fun ptr => propext (hmember ptr)
  exact heq ▸ h

theorem BuffersLinked.same (husers : UsersSame db db')
    (hpools : PoolsSameFor (InProfileTree db) db db') (h : BuffersLinked db) : BuffersLinked db' := by
  refine ⟨h.users.same husers, (h.pools.same hpools).congr fun ptr => ?_⟩
  unfold InProfileTree
  rw [husers.tree]

theorem BuffersLinked.of_plain (hsame : PlainSame db db') (h : BuffersLinked db) :
    BuffersLinked db' :=
  h.same (.of_plain hsame) (.of_plain hsame)

/-! ## A profile goes to another pool -/

section Move

theorem PoolsLinkedFor.leave (h : PoolsLinkedFor member db)
    (hget : db.profiles.get ptr = some profile) (hmember : member ptr) :
    PoolsLinkedFor (fun q => member q ∧ q ≠ ptr)
      (leaveBufferPool ptr profile.buffer_pool_id db) := by
  have hpool : ∀ o pool', (leaveBufferPool ptr profile.buffer_pool_id db).pools o = some pool' →
      ∃ pool, db.pools o = some pool ∧
        ((o = profile.buffer_pool_id ∧ pool'.buffer_profiles = pool.buffer_profiles.erase ptr ∧
          pool'.num_ref = pool.num_ref - 1) ∨
        (o ≠ profile.buffer_pool_id ∧ pool' = pool)) := by
    intro o pool' hpool'
    have hread : (if o = profile.buffer_pool_id then (db.pools o).map fun pool =>
        { pool with buffer_profiles := pool.buffer_profiles.erase ptr, num_ref := pool.num_ref - 1 }
        else db.pools o) = some pool' := hpool'
    by_cases ho : o = profile.buffer_pool_id
    · rw [if_pos ho] at hread
      obtain ⟨pool, hpool, rfl⟩ := Option.map_eq_some_iff.mp hread
      exact ⟨pool, hpool, .inl ⟨ho, rfl, rfl⟩⟩
    · rw [if_neg ho] at hread
      exact ⟨pool', hread, .inr ⟨ho, rfl⟩⟩
  have hlive : ∀ o, ((leaveBufferPool ptr profile.buffer_pool_id db).pools o).isSome =
      (db.pools o).isSome := by
    intro o
    show (if o = profile.buffer_pool_id then (db.pools o).map _ else db.pools o).isSome = _
    split
    · rw [Option.isSome_map]
    · rfl
  constructor
  · intro o ho
    exact h.ne_null o ((hlive o).symm.trans ho)
  · intro o pool' hpool'
    obtain ⟨pool, hpool, ⟨-, hlist, -⟩ | ⟨-, rfl⟩⟩ := hpool o pool' hpool'
    · rw [hlist]
      exact (h.nodup o _ hpool).erase ptr
    · exact h.nodup o _ hpool
  · intro o pool' hpool'
    obtain ⟨pool, hpool, ⟨ho, hlist, hnum⟩ | ⟨-, rfl⟩⟩ := hpool o pool' hpool'
    · have hmem := (h.mem o _ hpool ptr).mpr ⟨hmember, profile, hget, ho.symm⟩
      rw [hlist, hnum, h.num_ref o _ hpool, List.length_erase_of_mem hmem]
    · exact h.num_ref o _ hpool
  · intro o pool' hpool' q
    obtain ⟨pool, hpool, ⟨-, hlist, -⟩ | ⟨ho, rfl⟩⟩ := hpool o pool' hpool'
    · rw [hlist, (h.nodup o _ hpool).mem_erase_iff, h.mem o _ hpool q]
      constructor
      · rintro ⟨hne, hq, hnode⟩
        exact ⟨⟨hq, hne⟩, hnode⟩
      · rintro ⟨⟨hq, hne⟩, hnode⟩
        exact ⟨hne, hq, hnode⟩
    rw [h.mem o _ hpool q]
    constructor
    · rintro ⟨hq, profile', hget', hid⟩
      refine ⟨⟨hq, ?_⟩, profile', hget', hid⟩
      rintro rfl
      obtain rfl := Option.some.inj (hget'.symm.trans hget)
      exact ho hid.symm
    · rintro ⟨⟨hq, -⟩, hnode⟩
      exact ⟨hq, hnode⟩
  · intro q profile' hq hget'
    rw [hlive]
    exact h.known q _ hq.1 hget'

theorem PoolsLinkedFor.join (h : PoolsLinkedFor (fun q => member q ∧ q ≠ ptr) db)
    (hget : db.profiles.get ptr = some profile) (hlive : (db.pools pool_id).isSome = true) :
    PoolsLinkedFor (fun q => member q ∨ q = ptr) (joinBufferPool ptr pool_id db) := by
  have hnode : ∀ q, (joinBufferPool ptr pool_id db).profiles.get q = if q = ptr then
      (db.profiles.get q).map fun profile => { profile with buffer_pool_id := pool_id }
      else db.profiles.get q := fun _ => rfl
  have hself : (joinBufferPool ptr pool_id db).profiles.get ptr =
      some { profile with buffer_pool_id := pool_id } := by
    rw [hnode, if_pos rfl, hget]
    rfl
  have hother : ∀ q, q ≠ ptr → (joinBufferPool ptr pool_id db).profiles.get q = db.profiles.get q :=
    fun q hq => (hnode q).trans (if_neg hq)
  have hpool : ∀ o pool', (joinBufferPool ptr pool_id db).pools o = some pool' →
      ∃ pool, db.pools o = some pool ∧
        ((o = pool_id ∧ pool'.buffer_profiles = pool.buffer_profiles ++ [ptr] ∧
          pool'.num_ref = pool.num_ref + 1) ∨ (o ≠ pool_id ∧ pool' = pool)) := by
    intro o pool' hpool'
    have hread : (if o = pool_id then (db.pools o).map fun pool =>
        { pool with buffer_profiles := pool.buffer_profiles ++ [ptr], num_ref := pool.num_ref + 1 }
        else db.pools o) = some pool' := hpool'
    by_cases ho : o = pool_id
    · rw [if_pos ho] at hread
      obtain ⟨pool, hpool, rfl⟩ := Option.map_eq_some_iff.mp hread
      exact ⟨pool, hpool, .inl ⟨ho, rfl, rfl⟩⟩
    · rw [if_neg ho] at hread
      exact ⟨pool', hread, .inr ⟨ho, rfl⟩⟩
  have hlive' : ∀ o, ((joinBufferPool ptr pool_id db).pools o).isSome = (db.pools o).isSome := by
    intro o
    show (if o = pool_id then (db.pools o).map _ else db.pools o).isSome = _
    split
    · rw [Option.isSome_map]
    · rfl
  have hnot : ∀ o pool, db.pools o = some pool → ptr ∉ pool.buffer_profiles :=
    fun o pool hpool hmem => ((h.mem o _ hpool ptr).mp hmem).1.2 rfl
  constructor
  · intro o ho
    exact h.ne_null o ((hlive' o).symm.trans ho)
  · intro o pool' hpool'
    obtain ⟨pool, hpool, ⟨-, hlist, -⟩ | ⟨-, rfl⟩⟩ := hpool o pool' hpool'
    · rw [hlist, List.nodup_append]
      refine ⟨h.nodup o _ hpool, List.nodup_singleton ptr, ?_⟩
      rintro q hq r hr rfl
      rw [List.mem_singleton.mp hr] at hq
      exact hnot o pool hpool hq
    · exact h.nodup o _ hpool
  · intro o pool' hpool'
    obtain ⟨pool, hpool, ⟨-, hlist, hnum⟩ | ⟨-, rfl⟩⟩ := hpool o pool' hpool'
    · rw [hlist, hnum, h.num_ref o _ hpool, List.length_append]
      rfl
    · exact h.num_ref o _ hpool
  · intro o pool' hpool' q
    obtain ⟨pool, hpool, hcase⟩ := hpool o pool' hpool'
    by_cases hq : q = ptr
    · subst hq
      have hnamed : (∃ profile', (joinBufferPool q pool_id db).profiles.get q = some profile' ∧
          profile'.buffer_pool_id = o) ↔ pool_id = o := by
        rw [hself]
        constructor
        · rintro ⟨profile', hp, hid⟩
          cases hp
          exact hid
        · exact fun hid => ⟨_, rfl, hid⟩
      rw [hnamed]
      rcases hcase with ⟨ho, hlist, -⟩ | ⟨ho, rfl⟩
      · rw [hlist]
        simp [ho]
      · refine iff_of_false (hnot o pool' hpool) ?_
        exact fun hno => ho hno.2.symm
    · rw [hother q hq]
      have hmem := h.mem o _ hpool q
      have hlist : q ∈ pool'.buffer_profiles ↔ q ∈ pool.buffer_profiles := by
        rcases hcase with ⟨-, hlist, -⟩ | ⟨-, rfl⟩
        · rw [hlist, List.mem_append, List.mem_singleton]
          exact or_iff_left hq
        · exact Iff.rfl
      rw [hlist, hmem]
      simp [hq]
  · intro q profile' hq hget'
    rw [hlive']
    by_cases hqptr : q = ptr
    · rw [hqptr, hself] at hget'
      cases hget'
      exact .inr hlive
    rw [hother q hqptr] at hget'
    refine h.known q _ ⟨?_, hqptr⟩ hget'
    exact hq.resolve_right hqptr

theorem moveBufferPool_linked (h : PoolsLinkedFor member db)
    (hget : db.profiles.get ptr = some profile) (hmember : member ptr)
    (hlive : (db.pools pool_id).isSome = true) :
    PoolsLinkedFor member (moveBufferPool ptr pool_id db) := by
  have hback : ∀ q, (member q ∨ q = ptr) ↔ member q := by
    intro q
    refine or_iff_left_of_imp ?_
    rintro rfl
    exact hmember
  simp only [moveBufferPool, hget, Option.elim_some]
  split
  · have hleft := h.leave hget hmember
    refine PoolsLinkedFor.congr hback (hleft.join hget ?_)
    show (if pool_id = profile.buffer_pool_id then (db.pools pool_id).map _
      else db.pools pool_id).isSome = true
    split
    · rw [Option.isSome_map]
      exact hlive
    · exact hlive
  next hnull =>
    have hnull' : profile.buffer_pool_id = .null := not_not.mp hnull
    -- no pool has the null id, so there is no list to leave
    have hnone : db.pools .null = none := by
      by_contra hsome
      exact h.ne_null _ (Option.isSome_iff_ne_none.mpr hsome) rfl
    have hleft := h.leave hget hmember
    rw [hnull'] at hleft
    have hsame : leaveBufferPool ptr .null db = db := by
      have hpools : (leaveBufferPool ptr .null db).pools = db.pools := by
        funext o
        show (if o = .null then (db.pools o).map _ else db.pools o) = _
        split
        next ho =>
          rw [ho, hnone]
          rfl
        · rfl
      exact congrArg (fun pools => { db with pools := pools }) hpools
    rw [hsame] at hleft
    exact (hleft.join hget hlive).congr hback

end Move

/-! ## Parsing -/

/-- An attribute that `updateBufferProfileNode` takes. -/
def profileAttrParses (db : QosDb) : ProfileAttr → Bool
  | .poolId oid => (db.pools oid).isSome
  | .unknown _ => false
  | _ => true

/-- Some pool takes the profile before the first attribute that is refused. -/
def joinsPool (db : QosDb) : List ProfileAttr → Bool
  | [] => false
  | attr :: attr_list =>
    profileAttrParses db attr && (decide (attr.id = .poolId) || joinsPool db attr_list)

def BufferProfile.withAttr (profile : BufferProfile) : ProfileAttr → BufferProfile
  | .poolId oid => { profile with buffer_pool_id := oid }
  | .bufferSize u32 => { profile with size := u32 }
  | .thresholdMode s32 => { profile with profile_th_enable := true, threshold_mode := s32 }
  | .sharedDynamicTh s8 => { profile with dynamic_th := s8 }
  | .sharedStaticTh u32 => { profile with static_th := u32 }
  | .xoffTh u32 => { profile with xoff_th := u32 }
  | .xonTh u32 => { profile with xon_th := u32 }
  | .unknown _ => profile

def storeProfileAttr (ptr : Nat) (attr : ProfileAttr) (db : QosDb) : QosDb :=
  match attr with
  | .poolId oid => moveBufferPool ptr oid db
  | attr => setBufferProfile ptr (fun profile => profile.withAttr attr) db

/-- **One attribute** is taken and the rest goes on, or parsing ends. -/
theorem updateBufferProfileNode_cons (ptr attr_idx : Nat) (attr)
    (attr_list) (db) :
    (profileAttrParses db attr = true ∧
      updateBufferProfileNode ptr attr_idx (attr :: attr_list) db =
        updateBufferProfileNode ptr (attr_idx + 1) attr_list (storeProfileAttr ptr attr db)) ∨
    (profileAttrParses db attr = false ∧ ∃ rc, rc ≠ .success ∧
      updateBufferProfileNode ptr attr_idx (attr :: attr_list) db = (rc, db)) := by
  cases attr with
  | poolId oid =>
    simp only [updateBufferProfileNode]
    by_cases hlive : (db.pools oid).isSome = false
    · rw [if_pos hlive]
      exact .inr ⟨hlive, .itemNotFound, by simp, rfl⟩
    · rw [if_neg hlive]
      exact .inl ⟨Bool.of_not_eq_false hlive, rfl⟩
  | bufferSize | thresholdMode | sharedDynamicTh | sharedStaticTh | xoffTh | xonTh =>
    exact .inl ⟨rfl, rfl⟩
  | unknown id => exact .inr ⟨rfl, _, by simp, rfl⟩

theorem moveBufferPool_live (ptr : Nat) (pool_id) (db) (o) :
    ((moveBufferPool ptr pool_id db).pools o).isSome = (db.pools o).isSome := by
  have hset : ∀ o' f db', ((setBufferPool o' f db').pools o).isSome = (db'.pools o).isSome := by
    intro o' f db'
    show (if o = o' then (db'.pools o).map f else db'.pools o).isSome = _
    split
    · rw [Option.isSome_map]
    · rfl
  simp only [moveBufferPool, joinBufferPool]
  split
  · exact (hset _ _ _).trans (hset _ _ db)
  · exact hset _ _ _

theorem storeProfileAttr_live (ptr : Nat) (attr) (db) (o) :
    ((storeProfileAttr ptr attr db).pools o).isSome = (db.pools o).isSome := by
  cases attr with
  | poolId oid => exact moveBufferPool_live ptr oid db o
  | _ => rfl

theorem profileAttrParses_congr (hlive : ∀ o, (db'.pools o).isSome = (db.pools o).isSome) (attr) :
    profileAttrParses db' attr = profileAttrParses db attr := by
  cases attr with
  | poolId oid => exact hlive oid
  | _ => rfl

theorem joinsPool_congr (hlive : ∀ o, (db'.pools o).isSome = (db.pools o).isSome)
    (attr_list) : joinsPool db' attr_list = joinsPool db attr_list := by
  induction attr_list with
  | nil => rfl
  | cons attr attr_list ih =>
    simp only [joinsPool]
    rw [ih, profileAttrParses_congr hlive]

theorem moveBufferPool_get (pool_id) (hget : db.profiles.get ptr = some profile) :
    (moveBufferPool ptr pool_id db).profiles.get ptr =
      some { profile with buffer_pool_id := pool_id } := by
  have hjoin : ∀ db', db'.profiles = db.profiles → (joinBufferPool ptr pool_id db').profiles.get ptr =
      some { profile with buffer_pool_id := pool_id } := by
    intro db' hdb'
    show (db'.profiles.modify ptr _).get ptr = _
    rw [hdb', Heap.get_modify_self, hget]
    rfl
  simp only [moveBufferPool]
  split
  · exact hjoin _ rfl
  · exact hjoin _ rfl

theorem storeProfileAttr_get (attr) (hget : db.profiles.get ptr = some profile) :
    (storeProfileAttr ptr attr db).profiles.get ptr = some (profile.withAttr attr) := by
  cases attr with
  | poolId oid => exact moveBufferPool_get oid hget
  | _ =>
    show (db.profiles.modify ptr _).get ptr = _
    rw [Heap.get_modify_self, hget]
    rfl

theorem storeProfileAttr_users (ptr : Nat) (attr) (db) :
    UsersSame db (storeProfileAttr ptr attr db) := by
  cases attr with
  | poolId oid => exact .moveBufferPool
  | _ =>
    exact .setBufferProfile fun _ => rfl

theorem storeProfileAttr_linked {attr} (h : PoolsLinkedFor member db)
    (hget : db.profiles.get ptr = some profile) (hmember : member ptr)
    (hparses : profileAttrParses db attr = true) :
    PoolsLinkedFor member (storeProfileAttr ptr attr db) := by
  cases attr with
  | poolId oid => exact moveBufferPool_linked h hget hmember hparses
  | _ =>
    exact h.same (.setBufferProfile fun _ => rfl)

theorem updateBufferProfileNode_users (ptr : Nat) (attr_list) : ∀ attr_idx db,
    UsersSame db (updateBufferProfileNode ptr attr_idx attr_list db).2 := by
  induction attr_list with
  | nil => exact fun _ db => .of_trees (.refl db)
  | cons attr attr_list ih =>
    intro attr_idx db
    rcases updateBufferProfileNode_cons ptr _ _ _ db with
      ⟨-, heq⟩ | ⟨-, rc, -, heq⟩
    · rw [heq]
      exact (storeProfileAttr_users ptr _ db).trans (ih (attr_idx + 1) _)
    · rw [heq]
      exact .of_trees (.refl db)

theorem updateBufferProfileNode_ok (ptr : Nat) (attr_list) : ∀ attr_idx db,
    (updateBufferProfileNode ptr attr_idx attr_list db).1 = .success ↔
      ∀ attr ∈ attr_list, profileAttrParses db attr = true := by
  induction attr_list with
  | nil => exact fun _ _ => iff_of_true rfl fun _ hattr => absurd hattr (by simp)
  | cons attr attr_list ih =>
    intro attr_idx db
    rcases updateBufferProfileNode_cons ptr attr_idx attr attr_list db with
      ⟨hparses, heq⟩ | ⟨hparses, rc, hrc, heq⟩
    · rw [heq, ih, List.forall_mem_cons, and_iff_right hparses]
      have hlive := storeProfileAttr_live ptr attr db
      exact forall₂_congr fun a _ => by rw [profileAttrParses_congr hlive]
    · rw [heq]
      refine iff_of_false hrc fun hall => ?_
      rw [hall attr (List.mem_cons_self ..)] at hparses
      cases hparses

theorem updateBufferProfileNode_get (attr_list) :
    ∀ attr_idx db profile, db.profiles.get ptr = some profile →
    ∃ profile', (updateBufferProfileNode ptr attr_idx attr_list db).2.profiles.get ptr = some profile' ∧
      ((updateBufferProfileNode ptr attr_idx attr_list db).1 = .success →
        profile' = attr_list.foldl BufferProfile.withAttr profile) := by
  induction attr_list with
  | nil => exact fun _ _ profile hget => ⟨profile, hget, fun _ => rfl⟩
  | cons attr attr_list ih =>
    intro attr_idx db profile hget
    rcases updateBufferProfileNode_cons ptr _ _ _ db with
      ⟨-, heq⟩ | ⟨-, rc, hrc, heq⟩
    · rw [heq]
      exact ih (attr_idx + 1) _ _ (storeProfileAttr_get _ hget)
    · rw [heq]
      exact ⟨profile, hget, fun hok => absurd hok hrc⟩

/-- **Parsing**: every pool that is named takes the profile, up to the attribute that is refused. -/
theorem updateBufferProfileNode_linked (hmember : member ptr) (attr_list) :
    ∀ attr_idx db profile profile', PoolsLinkedFor member db →
    db.profiles.get ptr = some profile →
    (updateBufferProfileNode ptr attr_idx attr_list db).2.profiles.get ptr = some profile' →
    PoolsLinkedFor member (updateBufferProfileNode ptr attr_idx attr_list db).2 ∧
    (profile'.buffer_pool_id = .null ↔
      profile.buffer_pool_id = .null ∧ joinsPool db attr_list = false) := by
  induction attr_list with
  | nil =>
    intro attr_idx db profile profile' h hget hget'
    obtain rfl := Option.some.inj (hget'.symm.trans hget)
    exact ⟨h, (and_iff_left rfl).symm⟩
  | cons attr attr_list ih =>
    intro attr_idx db profile profile' h hget hget'
    rcases updateBufferProfileNode_cons ptr _ _ _ db with
      ⟨hparses, heq⟩ | ⟨hparses, rc, -, heq⟩
    · rw [heq] at hget' ⊢
      obtain ⟨hlinked, hnull⟩ := ih (attr_idx + 1) (storeProfileAttr ptr attr db)
        (profile.withAttr attr) profile' (storeProfileAttr_linked h hget hmember hparses)
        (storeProfileAttr_get _ hget) hget'
      refine ⟨hlinked, ?_⟩
      rw [hnull, joinsPool_congr (storeProfileAttr_live ptr _ db), joinsPool, hparses]
      cases attr with
      | poolId oid =>
        have hne : oid ≠ .null := h.ne_null oid hparses
        simp [BufferProfile.withAttr, ProfileAttr.id, hne]
      | _ =>
        simp [BufferProfile.withAttr, ProfileAttr.id]
    · rw [heq] at hget' ⊢
      obtain rfl := Option.some.inj (hget'.symm.trans hget)
      refine ⟨h, ?_⟩
      rw [joinsPool, hparses]
      exact (and_iff_left rfl).symm

/-! ## A user goes to another profile -/

theorem BufferProfile.users_removeUser (profile : BufferProfile) (o : Oid) (type : ObjType) :
    (profile.removeUser o).users type =
      if type = o.type then (profile.users type).erase o else profile.users type := by
  simp only [BufferProfile.removeUser]
  split
  next ho =>
    rw [ho]
    by_cases htype : type = .port
    · rw [if_pos htype, htype]
      rfl
    · rw [if_neg htype]
      cases type <;> first | rfl | exact absurd rfl htype
  next ho =>
    rw [ho]
    by_cases htype : type = .queue
    · rw [if_pos htype, htype]
      rfl
    · rw [if_neg htype]
      cases type <;> first | rfl | exact absurd rfl htype
  next ho =>
    rw [ho]
    by_cases htype : type = .ingressPriorityGroup
    · rw [if_pos htype, htype]
      rfl
    · rw [if_neg htype]
      cases type <;> first | rfl | exact absurd rfl htype
  next hport hqueue hpg =>
    split
    next htype =>
      have hnil : profile.users type = [] := by
        rw [htype]
        unfold BufferProfile.users
        split
        · exact absurd ‹_› hport
        · exact absurd ‹_› hqueue
        · exact absurd ‹_› hpg
        · rfl
      rw [hnil]
      rfl
    · rfl

theorem BufferProfile.users_addUser
    (ho : o.type = .port ∨ o.type = .queue ∨ o.type = .ingressPriorityGroup) (type) :
    (profile.addUser o).users type =
      if type = o.type then profile.users type ++ [o] else profile.users type := by
  have hcases : ∀ t, o.type = t → (t = .port ∨ t = .queue ∨ t = .ingressPriorityGroup) →
      (profile.addUser o).users type =
        if type = t then profile.users type ++ [o] else profile.users type := by
    intro t ht hcase
    simp only [BufferProfile.addUser, ht]
    by_cases htype : type = t
    · rw [if_pos htype, htype]
      rcases hcase with rfl | rfl | rfl <;> rfl
    · rw [if_neg htype]
      rcases hcase with rfl | rfl | rfl <;> cases type <;> first | rfl | exact absurd rfl htype
  exact hcases o.type rfl ho

/-- Only ports, queues and priority groups name profiles. -/
theorem userType_of_get (h : getBufferProfileId db o = some profile_id) :
    o.type = .port ∨ o.type = .queue ∨ o.type = .ingressPriorityGroup := by
  unfold getBufferProfileId at h
  split at h
  · exact .inl ‹_›
  · exact .inr (.inl ‹_›)
  · exact .inr (.inr ‹_›)
  · cases h

def BufferProfile.userCount (profile : BufferProfile) : Nat :=
  profile.ports.length + profile.queues.length + profile.pgs.length

variable {f : BufferProfile → BufferProfile}

theorem BufferProfile.userCount_removeUser (hmem : o ∈ profile.users o.type) :
    (profile.removeUser o).num_ref = profile.num_ref - 1 ∧
    (profile.removeUser o).userCount = profile.userCount - 1 := by
  have hcases : ∀ t, o.type = t → o ∈ profile.users t →
      (profile.removeUser o).num_ref = profile.num_ref - 1 ∧
      (profile.removeUser o).userCount = profile.userCount - 1 := by
    intro t ht hmem
    unfold BufferProfile.users at hmem
    split at hmem
    · have hpos := List.length_pos_of_mem hmem
      simp only [BufferProfile.removeUser, ht, BufferProfile.userCount, List.length_erase_of_mem hmem,
        true_and]
      omega
    · have hpos := List.length_pos_of_mem hmem
      simp only [BufferProfile.removeUser, ht, BufferProfile.userCount, List.length_erase_of_mem hmem,
        true_and]
      omega
    · have hpos := List.length_pos_of_mem hmem
      simp only [BufferProfile.removeUser, ht, BufferProfile.userCount, List.length_erase_of_mem hmem,
        true_and]
      omega
    · simp at hmem
  exact hcases o.type rfl hmem

theorem BufferProfile.userCount_addUser
    (ho : o.type = .port ∨ o.type = .queue ∨ o.type = .ingressPriorityGroup) :
    (profile.addUser o).num_ref = profile.num_ref + 1 ∧
    (profile.addUser o).userCount = profile.userCount + 1 := by
  rcases ho with ht | ht | ht
  all_goals
    simp only [BufferProfile.addUser, ht, BufferProfile.userCount, List.length_append,
      List.length_singleton, true_and]
    omega

variable (profile : BufferProfile) (o : Oid)

theorem BufferProfile.profile_id_removeUser : (profile.removeUser o).profile_id = profile.profile_id ∧
    (profile.removeUser o).buffer_pool_id = profile.buffer_pool_id := by
  simp only [BufferProfile.removeUser]
  split <;> exact ⟨rfl, rfl⟩

theorem BufferProfile.profile_id_addUser : (profile.addUser o).profile_id = profile.profile_id ∧
    (profile.addUser o).buffer_pool_id = profile.buffer_pool_id := by
  simp only [BufferProfile.addUser]
  split <;> exact ⟨rfl, rfl⟩

/-- What `objUpdateBufferProfileNode` leaves. -/
def relinkUser (object_id old_profile_id profile_id : Oid) (db : QosDb) : QosDb :=
  let set := setBufferProfileId object_id profile_id db
  let left := if old_profile_id ≠ .null then
    setProfileOf old_profile_id (fun profile => profile.removeUser object_id) set else set
  if profile_id ≠ .null then
    setProfileOf profile_id (fun profile => profile.addUser object_id) left else left

theorem objUpdateBufferProfileNode_ok (h : (objUpdateBufferProfileNode object_id profile_id db).1 = .success) :
    (profile_id ≠ .null → (db.profileNodeGet profile_id).isSome = true) ∧
    ∃ old_profile_id, getBufferProfileId db object_id = some old_profile_id ∧
      (objUpdateBufferProfileNode object_id profile_id db).2 =
        relinkUser object_id old_profile_id profile_id db := by
  simp only [objUpdateBufferProfileNode] at h ⊢
  split at h
  · cases h
  rename_i hknown
  rw [if_neg hknown]
  refine ⟨fun hnull => ?_, ?_⟩
  · by_contra hno
    exact hknown ⟨hnull, Bool.eq_false_iff.mpr hno⟩
  cases htype : object_id.type with
  | port | queue | ingressPriorityGroup =>
    simp only [htype] at h ⊢
    split at h
    · cases h
    rename_i old_profile_id hold
    rw [hold]
    exact ⟨old_profile_id, rfl, rfl⟩
  | _ =>
    simp only [htype] at h
    cases h

theorem getBufferProfileId_set (hold : getBufferProfileId db object_id = some old_profile_id)
    (profile_id o) :
    getBufferProfileId (setBufferProfileId object_id profile_id db) o =
      if o = object_id then some profile_id else getBufferProfileId db o := by
  by_cases ho : o = object_id
  · subst ho
    rw [if_pos rfl]
    unfold getBufferProfileId at hold ⊢
    unfold setBufferProfileId
    split at hold
    all_goals first
      | cases hold
      | obtain ⟨user, huser, -⟩ := Option.map_eq_some_iff.mp hold
        simp [*]
  · rw [if_neg ho]
    unfold getBufferProfileId setBufferProfileId
    split <;> first | rfl | (split <;> simp [ho])

theorem setProfileOf_get (hinj : ∀ a b ptr, db.profile_tree a = some ptr → db.profile_tree b = some ptr → a = b)
    (o) :
    (setProfileOf profile_id f db).profileNodeGet o =
      if o = profile_id then (db.profileNodeGet o).map f else db.profileNodeGet o := by
  unfold setProfileOf
  cases hptr : db.profile_tree profile_id with
  | none =>
    split
    next ho =>
      rw [ho]
      simp [profileNodeGet, hptr]
    · rfl
  | some ptr =>
    show (db.profile_tree o).bind (db.profiles.modify ptr f).get = _
    unfold profileNodeGet
    split
    next ho =>
      rw [ho, hptr]
      exact Heap.get_modify_self _ _ _
    rename_i ho
    cases hptr' : db.profile_tree o with
    | none => rfl
    | some ptr' =>
      refine Heap.get_modify_of_ne _ _ ?_
      rintro rfl
      exact ho (hinj o profile_id ptr' hptr' hptr)

theorem setProfileOf_kept :
    (setProfileOf profile_id f db).profile_tree = db.profile_tree ∧
    (setProfileOf profile_id f db).pools = db.pools ∧
    (∀ o, getBufferProfileId (setProfileOf profile_id f db) o = getBufferProfileId db o) := by
  unfold setProfileOf
  cases db.profile_tree profile_id with
  | none => exact ⟨rfl, rfl, fun _ => rfl⟩
  | some ptr => exact ⟨rfl, rfl, fun _ => rfl⟩

theorem setBufferProfileId_kept (object_id profile_id) (db) :
    (setBufferProfileId object_id profile_id db).profile_tree = db.profile_tree ∧
    (setBufferProfileId object_id profile_id db).pools = db.pools ∧
    (setBufferProfileId object_id profile_id db).profiles = db.profiles := by
  unfold setBufferProfileId
  split <;> exact ⟨rfl, rfl, rfl⟩

theorem UsersLinked.inj (h : UsersLinked db) (a b) (ptr : Nat)
    (ha : db.profile_tree a = some ptr) (hb : db.profile_tree b = some ptr) : a = b := by
  obtain ⟨profile, hget, hid, -⟩ := h.node a ptr ha
  obtain ⟨profile', hget', hid', -⟩ := h.node b ptr hb
  obtain rfl := Option.some.inj (hget'.symm.trans hget)
  exact hid.symm.trans hid'

theorem UsersLinked.get_null (h : UsersLinked db) : db.profileNodeGet .null = none := by
  unfold profileNodeGet
  cases hptr : db.profile_tree .null with
  | none => rfl
  | some ptr =>
    obtain ⟨-, -, -, htype⟩ := h.node _ ptr hptr
    cases htype

structure Relinked (object_id old_profile_id profile_id : Oid) (db db' : QosDb) : Prop where
  tree : db'.profile_tree = db.profile_tree
  pools : db'.pools = db.pools
  users : ∀ o, getBufferProfileId db' o =
    if o = object_id then some profile_id else getBufferProfileId db o
  get : ∀ o, db'.profileNodeGet o =
    if o = old_profile_id then (db.profileNodeGet o).map fun profile => profile.removeUser object_id
    else if o = profile_id then (db.profileNodeGet o).map fun profile => profile.addUser object_id
    else db.profileNodeGet o

theorem relinkUser_spec (h : UsersLinked db)
    (hold : getBufferProfileId db object_id = some old_profile_id) (hne : old_profile_id ≠ profile_id) :
    Relinked object_id old_profile_id profile_id db (relinkUser object_id old_profile_id profile_id db):= by
  obtain ⟨hsettree, hsetpools, hsetprofiles⟩ := setBufferProfileId_kept object_id profile_id db
  have hsetusers := getBufferProfileId_set hold profile_id
  have hsetget : ∀ o, (setBufferProfileId object_id profile_id db).profileNodeGet o =
      db.profileNodeGet o := by
    intro o
    unfold profileNodeGet
    rw [hsettree, hsetprofiles]
  have hnull := h.get_null
  simp only [relinkUser]
  generalize setBufferProfileId _ _ _ = set at *
  -- the null id has no profile, so the guards do not count
  have hguard : ∀ (o : Oid) f db', db'.profile_tree = db.profile_tree →
      (∀ o, (db'.profileNodeGet o).isSome = (db.profileNodeGet o).isSome) →
      (∀ o', (if o ≠ .null then setProfileOf o f db' else db').profileNodeGet o' =
        if o' = o then (db'.profileNodeGet o').map f else db'.profileNodeGet o') ∧
      (if o ≠ .null then setProfileOf o f db' else db').profile_tree = db'.profile_tree ∧
      (if o ≠ .null then setProfileOf o f db' else db').pools = db'.pools ∧
      (∀ o', getBufferProfileId (if o ≠ .null then setProfileOf o f db' else db') o' =
        getBufferProfileId db' o') := by
    intro o f db' htree hlive
    have hinj : ∀ a b ptr, db'.profile_tree a = some ptr → db'.profile_tree b = some ptr → a = b := by
      rw [htree]
      exact h.inj
    by_cases ho : o = .null
    · rw [if_ok ho]
      refine ⟨fun o' => ?_, rfl, rfl, fun _ => rfl⟩
      split
      next ho' =>
        have hnone : db'.profileNodeGet o' = none := by
          rw [← Option.not_isSome_iff_eq_none, hlive, ho', ho, hnull]
          simp
        rw [hnone]
        rfl
      · rfl
    · rw [if_pos ho]
      exact ⟨setProfileOf_get hinj, setProfileOf_kept⟩
  obtain ⟨hleftget, hlefttree, hleftpools, hleftusers⟩ := hguard old_profile_id
    (fun profile => profile.removeUser object_id) set hsettree (fun o => by rw [hsetget])
  generalize (if old_profile_id ≠ .null then
    setProfileOf old_profile_id (fun profile => profile.removeUser object_id) set else set) = left at *
  obtain ⟨hnewget, hnewtree, hnewpools, hnewusers⟩ := hguard profile_id
    (fun profile => profile.addUser object_id) left (hlefttree.trans hsettree) (fun o => by
      rw [hleftget, hsetget]
      split
      · rw [Option.isSome_map]
      · rfl)
  refine ⟨hnewtree.trans (hlefttree.trans hsettree), hnewpools.trans (hleftpools.trans hsetpools),
    fun o => ?_, fun o => ?_⟩
  · rw [hnewusers, hleftusers, hsetusers]
  · rw [hnewget, hleftget, hsetget]
    by_cases ho : o = old_profile_id
    · rw [if_pos ho, if_pos ho, if_neg (fun heq => hne (ho.symm.trans heq))]
    · rw [if_neg ho, if_neg ho]

theorem Relinked.poolsSame (hre : Relinked object_id old_profile_id profile_id db db') :
    PoolsSameFor (InProfileTree db) db db' := by
  have hpool : ∀ o, (db'.profileNodeGet o).map BufferProfile.buffer_pool_id =
      (db.profileNodeGet o).map BufferProfile.buffer_pool_id := by
    intro o
    rw [hre.get]
    split
    · rw [Option.map_map]
      exact congrArg (fun f => Option.map f _)
        (funext fun profile => (profile.profile_id_removeUser _).2)
    split
    · rw [Option.map_map]
      exact congrArg (fun f => Option.map f _)
        (funext fun profile => (profile.profile_id_addUser _).2)
    · rfl
  refine ⟨fun o => by rw [hre.pools], ?_⟩
  rintro q ⟨o, ho⟩
  have hread := hpool o
  unfold profileNodeGet at hread
  rw [hre.tree, ho] at hread
  exact hread

/-- **A user goes** from the list of the profile that it named to the list of another. -/
theorem UsersLinked.relink (h : UsersLinked db)
    (hold : getBufferProfileId db object_id = some old_profile_id) (hne : old_profile_id ≠ profile_id)
    (hnew : profile_id ≠ .null → (db.profileNodeGet profile_id).isSome = true)
    (hre : Relinked object_id old_profile_id profile_id db db') : UsersLinked db' := by
  have htype := userType_of_get hold
  have hlive : ∀ o, (db'.profileNodeGet o).isSome = (db.profileNodeGet o).isSome := by
    intro o
    rw [hre.get]
    split
    · rw [Option.isSome_map]
    split
    · rw [Option.isSome_map]
    · rfl
  -- a profile is left, taken, or neither
  have hback : ∀ o profile', db'.profileNodeGet o = some profile' →
      ∃ profile, db.profileNodeGet o = some profile ∧
        ((o = old_profile_id ∧ profile' = profile.removeUser object_id) ∨
        (o = profile_id ∧ profile' = profile.addUser object_id) ∨
        (o ≠ old_profile_id ∧ o ≠ profile_id ∧ profile' = profile)) := by
    intro o profile' hprofile'
    rw [hre.get] at hprofile'
    by_cases ho : o = old_profile_id
    · rw [if_pos ho] at hprofile'
      obtain ⟨profile, hprofile, heq⟩ := Option.map_eq_some_iff.mp hprofile'
      exact ⟨profile, hprofile, .inl ⟨ho, heq.symm⟩⟩
    rw [if_neg ho] at hprofile'
    by_cases ho' : o = profile_id
    · rw [if_pos ho'] at hprofile'
      obtain ⟨profile, hprofile, heq⟩ := Option.map_eq_some_iff.mp hprofile'
      exact ⟨profile, hprofile, .inr (.inl ⟨ho', heq.symm⟩)⟩
    · rw [if_neg ho'] at hprofile'
      exact ⟨profile', hprofile', .inr (.inr ⟨ho, ho', rfl⟩)⟩
  constructor
  · intro o ptr hptr
    rw [hre.tree] at hptr
    obtain ⟨profile, hget, hid, hotype⟩ := h.node o ptr hptr
    have hprofile : db.profileNodeGet o = some profile := Option.bind_eq_some_iff.mpr ⟨ptr, hptr, hget⟩
    obtain ⟨profile', hprofile'⟩ := Option.isSome_iff_exists.mp ((hlive o).trans (by rw [hprofile]; rfl))
    obtain ⟨ptr', hptr', hget'⟩ := Option.bind_eq_some_iff.mp hprofile'
    rw [hre.tree] at hptr'
    obtain rfl := Option.some.inj (hptr'.symm.trans hptr)
    refine ⟨profile', hget', ?_, hotype⟩
    obtain ⟨profile'', hprofile'', hcase⟩ := hback o profile' hprofile'
    obtain rfl := Option.some.inj (hprofile''.symm.trans hprofile)
    rcases hcase with ⟨-, rfl⟩ | ⟨-, rfl⟩ | ⟨-, -, rfl⟩
    · exact (profile''.profile_id_removeUser _).1.trans hid
    · exact (profile''.profile_id_addUser _).1.trans hid
    · exact hid
  · intro o profile' hprofile' type
    obtain ⟨profile, hprofile, hcase⟩ := hback o profile' hprofile'
    obtain ⟨hnodup, hmem⟩ := h.users o profile hprofile type
    rcases hcase with ⟨rfl, rfl⟩ | ⟨rfl, rfl⟩ | ⟨hleft, htaken, rfl⟩
    · rw [BufferProfile.users_removeUser]
      by_cases hobj : type = object_id.type
      · rw [if_pos hobj]
        refine ⟨hnodup.erase object_id, fun u => ?_⟩
        rw [hnodup.mem_erase_iff, hmem, hre.users]
        by_cases hu : u = object_id
        · rw [if_pos hu]
          exact iff_of_false (fun hno => hno.1 hu) fun hno => hne (Option.some.inj hno.2).symm
        · rw [if_neg hu]
          exact and_iff_right hu
      · rw [if_neg hobj]
        refine ⟨hnodup, fun u => (hmem u).trans ?_⟩
        rw [hre.users]
        refine and_congr_right fun hut => ?_
        rw [if_neg]
        rintro rfl
        exact hobj hut.symm
    · rw [BufferProfile.users_addUser htype]
      have hnot : object_id ∉ profile.users type := by
        intro hin
        exact hne (Option.some.inj (hold.symm.trans ((hmem object_id).mp hin).2))
      by_cases hobj : type = object_id.type
      · rw [if_pos hobj]
        constructor
        · rw [List.nodup_append]
          refine ⟨hnodup, List.nodup_singleton object_id, ?_⟩
          rintro u hu v hv rfl
          rw [List.mem_singleton.mp hv] at hu
          exact hnot hu
        · intro u
          rw [List.mem_append, List.mem_singleton, hmem, hre.users]
          by_cases hu : u = object_id
          · rw [if_pos hu]
            exact iff_of_true (.inr hu) ⟨by rw [hu, hobj], rfl⟩
          · rw [if_neg hu]
            exact or_iff_left hu
      · rw [if_neg hobj]
        refine ⟨hnodup, fun u => (hmem u).trans ?_⟩
        rw [hre.users]
        refine and_congr_right fun hut => ?_
        rw [if_neg]
        rintro rfl
        exact hobj hut.symm
    · refine ⟨hnodup, fun u => (hmem u).trans ?_⟩
      rw [hre.users]
      refine and_congr_right fun _ => ?_
      by_cases hu : u = object_id
      · rw [if_pos hu, hu, hold]
        exact iff_of_false (fun heq => hleft (Option.some.inj heq).symm)
          fun heq => htaken (Option.some.inj heq).symm
      · rw [if_neg hu]
  · intro o profile' hprofile'
    obtain ⟨profile, hprofile, hcase⟩ := hback o profile' hprofile'
    have hcount : profile.num_ref = profile.userCount := h.num_ref o _ hprofile
    show profile'.num_ref = profile'.userCount
    rcases hcase with ⟨rfl, rfl⟩ | ⟨-, rfl⟩ | ⟨-, -, rfl⟩
    · have hin := ((h.users o _ hprofile _).2 object_id).mpr ⟨rfl, hold⟩
      obtain ⟨hnum, htotal⟩ := BufferProfile.userCount_removeUser hin
      rw [hnum, htotal, hcount]
    · obtain ⟨hnum, htotal⟩ := @BufferProfile.userCount_addUser profile object_id htype
      rw [hnum, htotal, hcount]
    · exact hcount
  · intro o id ho
    rw [hlive]
    rw [hre.users] at ho
    split at ho
    · cases ho
      exact (em (profile_id = .null)).imp_right hnew
    · exact h.known o id ho

end OpxSai
