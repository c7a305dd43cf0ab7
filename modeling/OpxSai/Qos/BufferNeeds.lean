import OpxSai.Lib.Spent
import OpxSai.Qos.BufferPools

/-!
# What users need of a pool

What the users of the profiles in a pool leave of its size is its shared size.

* `PoolsSizedWith` — the sizes are right up to what some pools have still to get and to lose.
-/

namespace OpxSai

open QosDb
variable {pool_id : Oid} {db last mid : QosDb} {f : BufferPool → BufferPool}
variable {db' : QosDb}

/-! ## Property -/

def userProfile (db : QosDb) (o : Oid) : Option BufferProfile :=
  (getBufferProfileId db o).bind db.profileNodeGet

def UsesPool (db : QosDb) (pool_id o : Oid) : Prop :=
  ∃ profile, userProfile db o = some profile ∧ profile.buffer_pool_id = pool_id

def profileNeed (db : QosDb) (profile : BufferProfile) : ℕ :=
  profile.size.toNat + (bufferProfileReservedXoffTh db profile).toNat

def userNeed (db : QosDb) (o : Oid) : ℕ := (userProfile db o).elim 0 (profileNeed db)

/-- The XOFF size, the shared size and what the users need make the size of a pool. -/
def PoolsSized (db : QosDb) : Prop :=
  ∀ pool_id pool, db.pools pool_id = some pool → ∃ used, Spent (UsesPool db pool_id) (userNeed db) used ∧
    pool.shared_size.toNat + pool.xoff_size.toNat + used = pool.size.toNat

/-! ## What the sizes do not see -/

def BufferProfile.taken (profile : BufferProfile) : Oid × BitVec 32 × BitVec 32 :=
  (profile.buffer_pool_id, profile.size, profile.xoff_th)

variable {profile : Option BufferProfile}

structure NeedsSame (db db' : QosDb) : Prop where
  users : ∀ o, (userProfile db' o).map BufferProfile.taken = (userProfile db o).map BufferProfile.taken
  xoff : ∀ o profile, userProfile db o = some profile →
    (db'.pools profile.buffer_pool_id).map BufferPool.xoff_size =
      (db.pools profile.buffer_pool_id).map BufferPool.xoff_size

theorem isBufferPoolXoffSizeConfigured_congr
    (h : (db'.pools pool_id).map BufferPool.xoff_size = (db.pools pool_id).map BufferPool.xoff_size) :
    isBufferPoolXoffSizeConfigured db' pool_id = isBufferPoolXoffSizeConfigured db pool_id := by
  have hany : ∀ pool : Option BufferPool, pool.any (fun pool => 0 < pool.xoff_size) =
      (pool.map BufferPool.xoff_size).any fun xoff_size => 0 < xoff_size := by
    intro pool
    cases pool <;> rfl
  unfold isBufferPoolXoffSizeConfigured
  rw [hany, hany, h]

theorem profileNeed_congr {profile profile'} (htaken : profile'.taken = profile.taken)
    (hxoff : (db'.pools profile.buffer_pool_id).map BufferPool.xoff_size =
      (db.pools profile.buffer_pool_id).map BufferPool.xoff_size) :
    profileNeed db' profile' = profileNeed db profile := by
  simp only [BufferProfile.taken, Prod.mk.injEq] at htaken
  obtain ⟨hpool, hsize, hth⟩ := htaken
  unfold profileNeed bufferProfileReservedXoffTh
  rw [hpool, hsize, hth, isBufferPoolXoffSizeConfigured_congr hxoff]

section User

variable {o : Oid}

theorem usesPool_congr (h : (userProfile db' o).map BufferProfile.taken =
      (userProfile db o).map BufferProfile.taken) :
    UsesPool db' pool_id o ↔ UsesPool db pool_id o := by
  have hpool : ∀ profile : Option BufferProfile, (∃ p, profile = some p ∧ p.buffer_pool_id = pool_id) ↔
      (profile.map BufferProfile.taken).any (fun taken => taken.1 = pool_id) = true := by
    intro profile
    cases profile with
    | none => simp
    | some profile => simp [BufferProfile.taken]
  unfold UsesPool
  rw [hpool, hpool, h]

theorem userNeed_congr (h : (userProfile db' o).map BufferProfile.taken =
      (userProfile db o).map BufferProfile.taken)
    (hxoff : ∀ profile, userProfile db o = some profile →
      (db'.pools profile.buffer_pool_id).map BufferPool.xoff_size =
        (db.pools profile.buffer_pool_id).map BufferPool.xoff_size) :
    userNeed db' o = userNeed db o := by
  unfold userNeed
  cases hprofile : userProfile db o with
  | none =>
    rw [hprofile, Option.map_none, Option.map_eq_none_iff] at h
    rw [h]
    rfl
  | some profile =>
    rw [hprofile] at h
    obtain ⟨profile', hprofile', htaken⟩ := Option.map_eq_some_iff.mp h
    rw [hprofile']
    exact profileNeed_congr htaken (hxoff profile hprofile)

end User

namespace NeedsSame

theorem spent (h : NeedsSame db db') {used} (hspent : Spent (UsesPool db pool_id) (userNeed db) used) :
    Spent (UsesPool db' pool_id) (userNeed db') used :=
  hspent.congr (fun o => usesPool_congr (h.users o)) fun o _ =>
    userNeed_congr (h.users o) (h.xoff o)

theorem of_plain (h : PlainSame db db') : NeedsSame db db' := by
  refine ⟨fun o => ?_, fun o profile _ => ?_⟩
  · have hnode : db'.profileNodeGet = db.profileNodeGet := by
      funext profile_id
      unfold profileNodeGet
      rw [h.profile_tree, h.profiles]
    unfold userProfile
    rw [(UsersSame.of_plain h).users, hnode]
  · have hplain := congrArg (Option.map BufferPool.xoff_size) (h.pools profile.buffer_pool_id)
    rw [Option.map_map, Option.map_map] at hplain
    exact hplain

theorem setBufferPool (hf : ∀ pool, db.pools pool_id = some pool → (f pool).xoff_size = pool.xoff_size) :
    NeedsSame db (setBufferPool pool_id f db) := by
  refine ⟨fun _ => rfl, fun _ profile _ => ?_⟩
  generalize profile.buffer_pool_id = o
  show (if o = pool_id then (db.pools o).map f else db.pools o).map _ = _
  split
  next ho =>
    subst ho
    cases hpool : db.pools o with
    | none => rfl
    | some pool => exact congrArg some (hf pool hpool)
  · rfl

end NeedsSame

/-! ## A recalculation -/

/-- The shared sizes are right up to what some pools have still to get (`more`) and to lose (`less`). -/
def PoolsSizedWith (more less : Oid → ℕ) (db : QosDb) : Prop :=
  ∀ pool_id pool, db.pools pool_id = some pool → ∃ used, Spent (UsesPool db pool_id) (userNeed db) used ∧
    pool.shared_size.toNat + pool.xoff_size.toNat + used + more pool_id = pool.size.toNat + less pool_id

def TakesPoolSize (env : QosEnv) (pool_id : Oid) : Prop :=
  ∀ log size, env.outside log (.poolAttrSet pool_id (.size size)) = .success

/-- A pool that is not there has nothing to get or to lose. -/
def PoolTakes (env : QosEnv) (pool_id : Oid) (db : QosDb) : Prop :=
  db.pools pool_id = none ∨ TakesPoolSize env pool_id

theorem poolsSized_iff : PoolsSized db ↔ PoolsSizedWith (fun _ => 0) (fun _ => 0) db :=
  Iff.rfl

namespace PoolsSizedWith

variable {more less more' less' : Oid → ℕ}

theorem congr (h : PoolsSizedWith more less db)
    (heq : ∀ pool_id, (db.pools pool_id).isSome = true →
      more pool_id + less' pool_id = more' pool_id + less pool_id) :
    PoolsSizedWith more' less' db := by
  intro pool_id pool hpool
  obtain ⟨used, hspent, hsum⟩ := h pool_id pool hpool
  have hmove := heq pool_id (by rw [hpool]; rfl)
  exact ⟨used, hspent, by omega⟩

theorem same (hneeds : NeedsSame db db')
    (hpools : ∀ o, (db'.pools o).map BufferPool.sized = (db.pools o).map BufferPool.sized)
    (h : PoolsSizedWith more less db) : PoolsSizedWith more less db' := by
  intro pool_id pool' hpool'
  have hsized := hpools pool_id
  rw [hpool'] at hsized
  obtain ⟨pool, hpool, heq⟩ := Option.map_eq_some_iff.mp hsized.symm
  simp only [BufferPool.sized, Prod.mk.injEq] at heq
  obtain ⟨hsize, hxoff, hshared⟩ := heq
  obtain ⟨used, hspent, hsum⟩ := h pool_id pool hpool
  exact ⟨used, hneeds.spent hspent, by rw [← hsize, ← hxoff, ← hshared]; exact hsum⟩

theorem of_plain (hsame : PlainSame db db') (h : PoolsSizedWith more less db) :
    PoolsSizedWith more less db' := by
  refine h.same (.of_plain hsame) fun o => ?_
  have hplain := congrArg (Option.map BufferPool.sized) (hsame.pools o)
  rw [Option.map_map, Option.map_map] at hplain
  exact hplain

theorem of_trees (hsame : TreesSame db db') (h : PoolsSizedWith more less db) :
    PoolsSizedWith more less db' :=
  h.of_plain (.of_trees hsame)

end PoolsSizedWith

theorem setBufferPool_same (hf : ∀ pool, db.pools pool_id = some pool → f pool = pool) :
    TreesSame db (setBufferPool pool_id f db) := by
  refine ⟨rfl, ?_, rfl, rfl, rfl, rfl, rfl, rfl, rfl⟩
  funext o
  show (if o = pool_id then (db.pools o).map f else db.pools o) = db.pools o
  split
  next ho =>
    subst ho
    cases hpool : db.pools o with
    | none => rfl
    | some pool => exact congrArg some (hf pool hpool)
  · rfl

section Recalc

variable {env : QosEnv} {size : BitVec 32} {is_add : Bool}

theorem bufferPoolSizeRecalc_taken (htakes : size = 0 ∨ PoolTakes env pool_id db)
    (hroom : is_add = true → ∀ pool, db.pools pool_id = some pool → size ≤ pool.shared_size) :
    TreesSame (setBufferPool pool_id (BufferPool.recalc size is_add) db)
      (bufferPoolSizeRecalc env pool_id size is_add db).2 := by
  have hanswer : ∀ (set : Status × QosDb) back, set.1 = .success →
      (if set.1 ≠ .success then (set.1, back) else set).1 = .success := by
    intro set back hok
    rw [if_ok hok]
    exact hok
  rcases bufferPoolSizeRecalc_cases env _ _ _ db with
    ⟨hfail, hsame⟩ | ⟨-, pool, hpool, -, hsame⟩
  · refine TreesSame.trans (QosDb.TreesSame.symm (setBufferPool_same fun pool hpool => ?_)) hsame
    rcases htakes with rfl | hnone | htakes
    · cases is_add <;> simp [BufferPool.recalc]
    · rw [hnone] at hpool
      cases hpool
    refine absurd ?_ hfail
    simp only [bufferPoolSizeRecalc, hpool]
    rw [if_neg fun hlt => BitVec.not_lt.mpr (hroom hlt.1 pool hpool) hlt.2]
    exact hanswer _ _ (htakes db.outside_log pool.size)
  · exact hsame

variable {more less : Oid → ℕ}

variable {new_pool_id : Oid} {new_size : BitVec 32}

theorem PoolsSizedWith.get (h : PoolsSizedWith more less db)
    (hmore : ∀ pool, db.pools pool_id = some pool →
      more pool_id = size.toNat ∧ pool.shared_size.toNat + size.toNat < 2 ^ 32) :
    PoolsSizedWith (fun o => if o = pool_id then 0 else more o) less
      (setBufferPool pool_id (BufferPool.recalc size false) db) := by
  have hneeds : NeedsSame db (setBufferPool pool_id (BufferPool.recalc size false) db) :=
    .setBufferPool fun _ _ => rfl
  intro o pool' hpool'
  have hread : (if o = pool_id then (db.pools o).map (BufferPool.recalc size false) else db.pools o) =
      some pool' := hpool'
  by_cases ho : o = pool_id
  · subst ho
    rw [if_pos rfl] at hread
    obtain ⟨pool, hpool, rfl⟩ := Option.map_eq_some_iff.mp hread
    obtain ⟨used, hspent, hsum⟩ := h o pool hpool
    obtain ⟨heq, hwrap⟩ := hmore pool hpool
    refine ⟨used, hneeds.spent hspent, ?_⟩
    have hshared : (BufferPool.recalc size false pool).shared_size.toNat =
        pool.shared_size.toNat + size.toNat := by
      show (pool.shared_size + size).toNat = _
      rw [BitVec.toNat_add, Nat.mod_eq_of_lt hwrap]
    show (BufferPool.recalc size false pool).shared_size.toNat + pool.xoff_size.toNat + used +
      (if o = o then 0 else more o) = pool.size.toNat + less o
    rw [hshared, if_pos rfl]
    omega
  · rw [if_neg ho] at hread
    obtain ⟨used, hspent, hsum⟩ := h o pool' hread
    refine ⟨used, hneeds.spent hspent, ?_⟩
    show _ + (if o = pool_id then 0 else more o) = _
    rw [if_neg ho]
    exact hsum

theorem PoolsSizedWith.lose (h : PoolsSizedWith more less db)
    (hless : ∀ pool, db.pools pool_id = some pool →
      less pool_id = size.toNat ∧ size ≤ pool.shared_size) :
    PoolsSizedWith more (fun o => if o = pool_id then 0 else less o)
      (setBufferPool pool_id (BufferPool.recalc size true) db) := by
  have hneeds : NeedsSame db (setBufferPool pool_id (BufferPool.recalc size true) db) :=
    .setBufferPool fun _ _ => rfl
  intro o pool' hpool'
  have hread : (if o = pool_id then (db.pools o).map (BufferPool.recalc size true) else db.pools o) =
      some pool' := hpool'
  by_cases ho : o = pool_id
  · subst ho
    rw [if_pos rfl] at hread
    obtain ⟨pool, hpool, rfl⟩ := Option.map_eq_some_iff.mp hread
    obtain ⟨used, hspent, hsum⟩ := h o pool hpool
    obtain ⟨heq, hroom⟩ := hless pool hpool
    refine ⟨used, hneeds.spent hspent, ?_⟩
    have hle : size.toNat ≤ pool.shared_size.toNat := BitVec.le_def.mp hroom
    have hshared : (BufferPool.recalc size true pool).shared_size.toNat =
        pool.shared_size.toNat - size.toNat :=
      BitVec.toNat_sub_of_le hroom
    show (BufferPool.recalc size true pool).shared_size.toNat + pool.xoff_size.toNat + used + more o =
      pool.size.toNat + if o = o then 0 else less o
    rw [hshared, if_pos rfl]
    omega
  · rw [if_neg ho] at hread
    obtain ⟨used, hspent, hsum⟩ := h o pool' hread
    refine ⟨used, hneeds.spent hspent, ?_⟩
    show _ = pool'.size.toNat + if o = pool_id then 0 else less o
    rw [if_neg ho]
    exact hsum

theorem PoolsSizedWith.settle (h : PoolsSizedWith more less db)
    (hother : ∀ o, o ≠ pool_id → more o = less o) (hsize : ∀ pool, db.pools pool_id = some pool →
      pool.shared_size.toNat + more pool_id < 2 ^ 32 ∧
      if is_add = true then less pool_id = more pool_id + size.toNat ∧ size ≤ pool.shared_size
      else more pool_id = less pool_id + size.toNat)
    (hlast : TreesSame (setBufferPool pool_id (BufferPool.recalc size is_add) db) last) :
    PoolsSizedWith (fun _ => 0) (fun _ => 0) last := by
  refine PoolsSizedWith.of_trees hlast ?_
  cases is_add with
  | true =>
    have hless : PoolsSizedWith (fun _ => 0) (fun o => less o - more o) db := by
      refine h.congr fun o ho => ?_
      by_cases heq : o = pool_id
      · obtain ⟨pool, hpool⟩ := Option.isSome_iff_exists.mp ho
        obtain ⟨-, hdiff⟩ := hsize pool (heq ▸ hpool)
        rw [if_pos rfl] at hdiff
        rw [heq]
        omega
      · rw [hother o heq]
        omega
    refine (hless.lose fun pool hpool => ?_).congr fun o _ => ?_
    · obtain ⟨-, hdiff⟩ := hsize pool hpool
      rw [if_pos rfl] at hdiff
      exact ⟨by omega, hdiff.2⟩
    · split
      · rfl
      rename_i heq
      rw [hother o heq]
      omega
  | false =>
    have hmore : PoolsSizedWith (fun o => more o - less o) (fun _ => 0) db := by
      refine h.congr fun o ho => ?_
      by_cases heq : o = pool_id
      · obtain ⟨pool, hpool⟩ := Option.isSome_iff_exists.mp ho
        obtain ⟨-, hdiff⟩ := hsize pool (heq ▸ hpool)
        rw [if_neg (by decide)] at hdiff
        rw [heq]
        omega
      · rw [hother o heq]
        omega
    refine (hmore.get fun pool hpool => ?_).congr fun o _ => ?_
    · obtain ⟨hwrap, hdiff⟩ := hsize pool hpool
      rw [if_neg (by decide)] at hdiff
      exact ⟨by omega, by omega⟩
    · split
      · rfl
      rename_i heq
      rw [hother o heq]
      omega

theorem PoolsSizedWith.settleBoth (h : PoolsSizedWith more less db)
    (hmoreother : ∀ o, o ≠ pool_id → more o = 0) (hlessother : ∀ o, o ≠ new_pool_id → less o = 0)
    (hmore : ∀ pool, db.pools pool_id = some pool →
      more pool_id = size.toNat ∧ pool.shared_size.toNat + size.toNat < 2 ^ 32)
    (hmid : TreesSame (setBufferPool pool_id (BufferPool.recalc size false) db) mid)
    (hless : ∀ pool, mid.pools new_pool_id = some pool →
      less new_pool_id = new_size.toNat ∧ new_size ≤ pool.shared_size)
    (hlast : TreesSame (setBufferPool new_pool_id (BufferPool.recalc new_size true) mid) last) :
    PoolsSizedWith (fun _ => 0) (fun _ => 0) last := by
  have hgot := PoolsSizedWith.of_trees hmid (h.get hmore)
  refine (PoolsSizedWith.of_trees hlast (hgot.lose hless)).congr fun o _ => ?_
  have hgets : (if o = pool_id then 0 else more o) = 0 := by
    split
    · rfl
    · exact hmoreother o ‹_›
  have hloses : (if o = new_pool_id then 0 else less o) = 0 := by
    split
    · rfl
    · exact hlessother o ‹_›
  rw [hgets, hloses]

theorem recalc_room (hwrap : ∀ pool, db.pools pool_id = some pool → pool.shared_size.toNat + size.toNat
    < 2 ^ 32)
    (hroom : ∀ pool, db.pools new_pool_id = some pool → new_size ≤ pool.shared_size)
    (hmid : TreesSame (setBufferPool pool_id (BufferPool.recalc size false) db) mid)
    {pool'} (hpool' : mid.pools new_pool_id = some pool') : new_size ≤ pool'.shared_size := by
  rw [hmid.pools] at hpool'
  have hread : (if new_pool_id = pool_id then (db.pools new_pool_id).map (BufferPool.recalc size false)
      else db.pools new_pool_id) = some pool' := hpool'
  split at hread
  next heq =>
    obtain ⟨pool, hpool, rfl⟩ := Option.map_eq_some_iff.mp hread
    have hle := BitVec.le_def.mp (hroom pool hpool)
    refine BitVec.le_def.mpr ?_
    show new_size.toNat ≤ (pool.shared_size + size).toNat
    rw [BitVec.toNat_add, Nat.mod_eq_of_lt (hwrap pool (heq ▸ hpool))]
    omega
  · exact hroom pool' hread

end Recalc

/-! ## Some users take another profile -/

/-- What a user of a profile, or of none, needs of a pool. -/
def needOf (db : QosDb) (profile : Option BufferProfile) (pool_id : Oid) : ℕ :=
  profile.elim 0 fun profile => if profile.buffer_pool_id = pool_id then profileNeed db profile else 0

theorem needOf_congr {profile'}
    (htaken : profile'.map BufferProfile.taken = profile.map BufferProfile.taken)
    (hxoff : ∀ o, (db'.pools o).map BufferPool.xoff_size = (db.pools o).map BufferPool.xoff_size)
    (pool_id : Oid) : needOf db' profile' pool_id = needOf db profile pool_id := by
  cases profile with
  | none =>
    rw [Option.map_none, Option.map_eq_none_iff] at htaken
    rw [htaken]
    rfl
  | some profile =>
    obtain ⟨profile₁, rfl, htaken₁⟩ := Option.map_eq_some_iff.mp htaken
    show (if profile₁.buffer_pool_id = pool_id then profileNeed db' profile₁ else 0) =
      if profile.buffer_pool_id = pool_id then profileNeed db profile else 0
    rw [profileNeed_congr htaken₁ (hxoff _), show profile₁.buffer_pool_id = profile.buffer_pool_id from
      congrArg Prod.fst htaken₁]

/-- What users of one profile need of a pool together. -/
theorem spent_users {users : List Oid} (hnodup : users.Nodup)
    (hprofile : ∀ o ∈ users, (userProfile db o).map BufferProfile.taken =
      profile.map BufferProfile.taken) :
    Spent (fun o => o ∈ users ∧ UsesPool db pool_id o) (userNeed db)
      (users.length * needOf db profile pool_id) := by
  have hneed : ∀ o ∈ users, ∀ p, userProfile db o = some p → p.buffer_pool_id = pool_id →
      userNeed db o = needOf db profile pool_id := by
    intro o ho p hp hid
    rw [← needOf_congr (hprofile o ho) (fun _ => rfl), hp]
    unfold userNeed
    rw [hp]
    exact (if_pos hid).symm
  by_cases hin : ∃ p, profile.map BufferProfile.taken = some p ∧ p.1 = pool_id
  · refine .of_list hnodup (fun o => ?_) fun o ho => ?_
    · refine (and_iff_left_of_imp fun ho => ?_).symm
      obtain ⟨p, hp, hid⟩ := hin
      rw [← hprofile o ho] at hp
      obtain ⟨profile', hprofile', rfl⟩ := Option.map_eq_some_iff.mp hp
      exact ⟨profile', hprofile', hid⟩
    · obtain ⟨hmem, p, hp, hid⟩ := ho
      exact hneed o hmem p hp hid
  · have hzero : needOf db profile pool_id = 0 := by
      cases profile with
      | none => rfl
      | some profile => exact if_neg fun hid => hin ⟨_, rfl, hid⟩
    rw [hzero, Nat.mul_zero]
    refine .of_none ?_
    rintro o ⟨ho, p, hp, hid⟩
    refine hin ⟨p.taken, ?_, hid⟩
    rw [← hprofile o ho, hp]
    rfl

section Change

variable {users : List Oid} {old new : Option BufferProfile}

theorem PoolsSized.room (h : PoolsSized db) (hnodup : users.Nodup)
    (hold : ∀ o ∈ users, (userProfile db o).map BufferProfile.taken = old.map BufferProfile.taken)
    {pool : BufferPool} (hpool : db.pools pool_id = some pool) :
    pool.shared_size.toNat + users.length * needOf db old pool_id ≤ pool.size.toNat := by
  obtain ⟨used, hspent, hsum⟩ := h pool_id pool hpool
  have hle := hspent.le (spent_users hnodup hold) fun _ ho => ho.2
  omega

/-- **Some users take another profile**: their pools have to get what they needed, and to lose what they
need. -/
theorem PoolsSized.changeUsers (h : PoolsSized db) (hnodup : users.Nodup)
    (hold : ∀ o ∈ users, (userProfile db o).map BufferProfile.taken = old.map BufferProfile.taken)
    (hnew : ∀ o ∈ users, (userProfile db' o).map BufferProfile.taken = new.map BufferProfile.taken)
    (hkept : ∀ o, o ∉ users → (userProfile db' o).map BufferProfile.taken =
      (userProfile db o).map BufferProfile.taken)
    (hpools : ∀ o, (db'.pools o).map BufferPool.sized = (db.pools o).map BufferPool.sized) :
    PoolsSizedWith (fun o => users.length * needOf db old o) (fun o => users.length * needOf db new o)
      db' := by
  have hxoff : ∀ o, (db'.pools o).map BufferPool.xoff_size = (db.pools o).map BufferPool.xoff_size := by
    intro o
    have hsized := congrArg (Option.map fun sized => sized.2.1) (hpools o)
    rw [Option.map_map, Option.map_map] at hsized
    exact hsized
  intro pool_id pool' hpool'
  have hsized := hpools pool_id
  rw [hpool'] at hsized
  obtain ⟨pool, hpool, heq⟩ := Option.map_eq_some_iff.mp hsized.symm
  simp only [BufferPool.sized, Prod.mk.injEq] at heq
  obtain ⟨hsize, hxoffsize, hshared⟩ := heq
  obtain ⟨used, hspent, hsum⟩ := h pool_id pool hpool
  -- a user that keeps its profile uses the same pool, as much as before
  obtain ⟨used', hspent', hmove⟩ := hspent.change (spent_users hnodup hold)
    (spent_users hnodup hnew) fun o ho => ⟨usesPool_congr (hkept o ho),
      fun _ => userNeed_congr (hkept o ho) fun profile _ => hxoff profile.buffer_pool_id⟩
  refine ⟨used', hspent', ?_⟩
  have hneed : needOf db' new pool_id = needOf db new pool_id := needOf_congr rfl hxoff _
  rw [hneed] at hmove
  rw [← hsize, ← hxoffsize, ← hshared]
  show _ + used' + users.length * needOf db old pool_id =
    pool.size.toNat + users.length * needOf db new pool_id
  omega

end Change

end OpxSai
