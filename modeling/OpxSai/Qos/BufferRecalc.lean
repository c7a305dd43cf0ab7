import OpxSai.Qos.BufferFit
import OpxSai.Qos.ProfileSet

/-!
# Recalculations

A call that changes what users need moves the shared sizes by a difference of its own, in 32 bits, and
drops what the NPU answers to it.
-/

namespace OpxSai

open QosDb
variable {n before after : ℕ} {pool_id profile_id : Oid}

/-! ## Conditions -/

variable {db : QosDb} (env : QosEnv) (profile : BufferProfile) (o : Oid)

/-- A profile whose users are in a pool: all that they need more fits in 32 bits, and the NPU takes the
size of the pool. A profile that goes to another pool needs the same of it. -/
def ProfileSizeOk (profile_id : Oid) (attr : ProfileAttr) (db : QosDb) : Prop :=
  ∀ profile pool, db.profileNodeGet profile_id = some profile →
    db.pools profile.buffer_pool_id = some pool →
    let before := profile.num_ref * profileNeed db profile
    let after := profile.num_ref * profileNeed db (profile.withAttr attr)
    match attr with
    | .poolId oid => (db.pools oid).isSome = true →
      after = before ∧ (before = 0 ∨ TakesPoolSize env profile.buffer_pool_id ∧ TakesPoolSize env oid)
    | _ => after - before < 2 ^ 32 ∧ (after = before ∨ TakesPoolSize env profile.buffer_pool_id)

/-- A user that changes its profile: what it needs fits in 32 bits, and the NPU takes the sizes of the
pools that get or lose something. -/
def UserSizeOk (object_id profile_id : Oid) (db : QosDb) : Prop :=
  ∀ old_profile_id profile old_profile, getBufferProfileId db object_id = some old_profile_id →
    old_profile_id ≠ profile_id → profileOrDefault db profile_id = some profile →
    profileOrDefault db old_profile_id = some old_profile →
    let before := profileNeed db old_profile
    let after := profileNeed db profile
    after < 2 ^ 32 ∧
    (if old_profile.buffer_pool_id = profile.buffer_pool_id then
      after = before ∨ PoolTakes env profile.buffer_pool_id db
    else
      (before = 0 ∨ PoolTakes env old_profile.buffer_pool_id db) ∧
      (after = 0 ∨ PoolTakes env profile.buffer_pool_id db))

/-! ## A profile takes another value -/

section Check

variable {env : QosEnv} {attr : ProfileAttr} {profile : BufferProfile}
  {buf_size : BitVec 32} {is_add : Bool}

theorem toNat_ofNat_mul {x : BitVec 32} (h : n * x.toNat < 2 ^ 32) :
    (BitVec.ofNat 32 n * x).toNat = n * x.toNat := by
  rw [BitVec.toNat_mul, BitVec.toNat_ofNat, Nat.mod_mul_mod, Nat.mod_eq_of_lt h]

theorem toNat_ofNat_mul_charge (h : n * profileNeed db profile < 2 ^ 32) :
    (BitVec.ofNat 32 n * bufferProfileCharge db profile).toNat = n * profileNeed db profile := by
  unfold bufferProfileCharge
  rw [BitVec.toNat_mul, BitVec.toNat_ofNat, BitVec.toNat_add, Nat.mul_mod_mod, Nat.mod_mul_mod]
  exact Nat.mod_eq_of_lt h

/-- The difference of two values, for each of `n` users. -/
theorem toNat_ofNat_mul_sub {rest} {a b : BitVec 32} (hle : a ≤ b)
    (h : n * (b.toNat + rest) - n * (a.toNat + rest) < 2 ^ 32) :
    n * (b.toNat + rest) = n * (a.toNat + rest) + (BitVec.ofNat 32 n * (b - a)).toNat := by
  have hle' := BitVec.le_def.mp hle
  have hsub : (b - a).toNat = b.toNat - a.toNat := BitVec.toNat_sub_of_le hle
  have hmul : n * (b.toNat + rest) = n * (a.toNat + rest) + n * (b - a).toNat := by
    rw [← Nat.mul_add, hsub]
    congr 1
    omega
  rw [toNat_ofNat_mul (by omega)]
  exact hmul

/-- **The size that a set moves** is what the users of the profile need more or less, where the profile
stays in its pool. -/
theorem checkBufferSize_moves (hok : (checkBufferSize env attr profile db).1 = .ok (buf_size, is_add))
    (hattr : attr.id ≠ .poolId) {pool}
    (hpool : db.pools profile.buffer_pool_id = some pool)
    (hbefore : profile.num_ref * profileNeed db profile < 2 ^ 32)
    (hmore : profile.num_ref * profileNeed db (profile.withAttr attr) -
      profile.num_ref * profileNeed db profile < 2 ^ 32) :
    if is_add = true then
      profile.num_ref * profileNeed db (profile.withAttr attr) =
        profile.num_ref * profileNeed db profile + buf_size.toNat ∧ buf_size ≤ pool.shared_size
    else
      profile.num_ref * profileNeed db profile =
        profile.num_ref * profileNeed db (profile.withAttr attr) + buf_size.toNat := by
  have hgrowth : ∀ u32, (checkBufferGrowth env profile u32 db).1 = .ok (buf_size, is_add) →
      buf_size = BitVec.ofNat 32 profile.num_ref * u32 ∧ is_add = true ∧
      buf_size ≤ pool.shared_size := by
    intro u32 hgrows
    simp only [checkBufferGrowth] at hgrows
    split at hgrows
    · cases hgrows
    rename_i havailable
    split at hgrows
    · cases hgrows
    cases hgrows
    refine ⟨rfl, rfl, ?_⟩
    unfold isBufferPoolAvailable at havailable
    rw [hpool] at havailable
    simpa using havailable
  cases attr with
  | bufferSize u32 =>
    have hafter : profileNeed db (profile.withAttr (.bufferSize u32)) =
        u32.toNat + (bufferProfileReservedXoffTh db profile).toNat := rfl
    have hnow : profileNeed db profile =
        profile.size.toNat + (bufferProfileReservedXoffTh db profile).toNat := rfl
    rw [hnow] at hbefore
    rw [hafter, hnow] at hmore ⊢
    simp only [checkBufferSize] at hok
    split at hok
    next hlt =>
      obtain ⟨rfl, rfl, hroom⟩ := hgrowth _ hok
      rw [if_pos rfl]
      exact ⟨toNat_ofNat_mul_sub (BitVec.le_of_lt hlt) hmore, hroom⟩
    rename_i hle
    cases hok
    rw [if_neg (by decide)]
    exact toNat_ofNat_mul_sub (BitVec.not_lt.mp hle) (by omega)
  | xoffTh u32 =>
    have hth : profileNeed db (profile.withAttr (.xoffTh u32)) = profile.size.toNat +
        (if isBufferPoolXoffSizeConfigured db profile.buffer_pool_id = true then 0 else u32).toNat := rfl
    simp only [checkBufferSize] at hok
    by_cases hxoff : isBufferPoolXoffSizeConfigured db profile.buffer_pool_id = true
    · -- nothing is reserved for the users
      rw [if_pos hxoff] at hok
      cases hok
      have hafter : profileNeed db (profile.withAttr (.xoffTh u32)) = profileNeed db profile := by
        unfold profileNeed bufferProfileReservedXoffTh
        rw [if_pos hxoff]
        exact hth.trans (by rw [if_pos hxoff])
      rw [hafter, if_pos rfl]
      exact ⟨rfl, BitVec.le_def.mpr (Nat.zero_le _)⟩
    · rw [if_neg hxoff] at hok
      have hafter : profileNeed db (profile.withAttr (.xoffTh u32)) =
          u32.toNat + profile.size.toNat := by
        rw [hth, if_neg hxoff]
        exact Nat.add_comm _ _
      have hnow : profileNeed db profile = profile.xoff_th.toNat + profile.size.toNat := by
        unfold profileNeed bufferProfileReservedXoffTh
        rw [if_neg hxoff]
        exact Nat.add_comm _ _
      rw [hnow] at hbefore
      rw [hafter, hnow] at hmore ⊢
      split at hok
      next hlt =>
        obtain ⟨rfl, rfl, hroom⟩ := hgrowth _ hok
        rw [if_pos rfl]
        exact ⟨toNat_ofNat_mul_sub (BitVec.le_of_lt hlt) hmore, hroom⟩
      rename_i hle
      cases hok
      rw [if_neg (by decide)]
      exact toNat_ofNat_mul_sub (BitVec.not_lt.mp hle) (by omega)
  | poolId oid => exact absurd rfl hattr
  | _ =>
    cases hok
    rfl

end Check

section Set

variable {ptr : Nat} {profile : BufferProfile}

theorem profileNeed_of_trees {db'} (h : TreesSame db db') :
    profileNeed db' = profileNeed db := by
  funext profile
  unfold profileNeed bufferProfileReservedXoffTh isBufferPoolXoffSizeConfigured
  rw [h.pools]

theorem UsersLinked.allUsers (h : UsersLinked db) (hprofile : db.profileNodeGet profile_id = some profile) :
    (profile.ports ++ profile.queues ++ profile.pgs).length = profile.num_ref ∧
    ∀ o, o ∈ profile.ports ++ profile.queues ++ profile.pgs ↔
      getBufferProfileId db o = some profile_id := by
  refine ⟨?_, fun o => ?_⟩
  · rw [h.num_ref _ _ hprofile, List.length_append, List.length_append]
  · have hport : o ∈ profile.ports ↔ _ := (h.users profile_id profile hprofile .port).2 o
    have hqueue : o ∈ profile.queues ↔ _ := (h.users profile_id profile hprofile .queue).2 o
    have hpg : o ∈ profile.pgs ↔ _ := (h.users profile_id profile hprofile .ingressPriorityGroup).2 o
    rw [List.mem_append, List.mem_append, hport, hqueue, hpg]
    constructor
    · rintro ((⟨-, ho⟩ | ⟨-, ho⟩) | ⟨-, ho⟩) <;> exact ho
    · intro ho
      rcases userType_of_get ho with htype | htype | htype
      · exact .inl (.inl ⟨htype, ho⟩)
      · exact .inl (.inr ⟨htype, ho⟩)
      · exact .inr ⟨htype, ho⟩

theorem userProfile_write (h : UsersLinked db) (htree : db.profile_tree profile_id = some ptr)
    {db'} {profile'} (htree' : db'.profile_tree = db.profile_tree)
    (husers : ∀ o, getBufferProfileId db' o = getBufferProfileId db o)
    (hself : db'.profiles.get ptr = some profile')
    (hother : ∀ q, q ≠ ptr → db'.profiles.get q = db.profiles.get q) (o) :
    (getBufferProfileId db o = some profile_id → userProfile db' o = some profile') ∧
    (getBufferProfileId db o ≠ some profile_id → userProfile db' o = userProfile db o) := by
  refine ⟨fun hid => ?_, fun hid => userProfile_congr (husers o) fun other hother' => ?_⟩
  · unfold userProfile profileNodeGet
    rw [husers, hid, htree', Option.bind_some, htree]
    exact hself
  · have hne : other ≠ profile_id := by
      rintro rfl
      exact hid hother'
    unfold profileNodeGet
    rw [htree']
    cases hq : db.profile_tree other with
    | none => rfl
    | some q =>
      refine hother q ?_
      rintro rfl
      exact hne (h.inj _ _ q hq htree)

/-- A new value that is stored and not yet recalculated. -/
theorem PoolsSized.stored (h : PoolsSized db) (hlinked : UsersLinked db)
    (htree : db.profile_tree profile_id = some ptr) (hget : db.profiles.get ptr = some profile)
    (attr) :
    PoolsSizedWith (fun o => profile.num_ref * needOf db (some profile) o)
      (fun o => profile.num_ref * needOf db (some (profile.withAttr attr)) o)
      (storeProfileAttr ptr attr db) ∧
    SizesSame (setProfileOf profile_id (fun profile => profile.withAttr attr) db)
      (storeProfileAttr ptr attr db) ∧
    ∀ pool_id pool, db.pools pool_id = some pool →
      pool.shared_size.toNat + profile.num_ref * needOf db (some profile) pool_id < 2 ^ 32 := by
  have hprofile : db.profileNodeGet profile_id = some profile :=
    Option.bind_eq_some_iff.mpr ⟨ptr, htree, hget⟩
  obtain ⟨hlength, hmem⟩ := hlinked.allUsers hprofile
  have hnodup := (hlinked.usersOk hprofile).nodup
  have husers := storeProfileAttr_users ptr attr db
  have hself := storeProfileAttr_get attr hget
  have hsized := fun o => storeProfileAttr_sized attr hget o
  have hwrite := userProfile_write hlinked htree husers.tree husers.users hself
    fun q hq => storeProfileAttr_other attr db hq
  have hold : ∀ o ∈ profile.ports ++ profile.queues ++ profile.pgs,
      (userProfile db o).map BufferProfile.taken = (some profile).map BufferProfile.taken := by
    intro o ho
    unfold userProfile
    rw [(hmem o).mp ho, Option.bind_some, hprofile]
  rw [← hlength]
  refine ⟨?_, ?_, fun pool_id pool hpool => ?_⟩
  · refine h.changeUsers hnodup hold (fun o ho => ?_) (fun o ho => ?_) hsized
    · rw [(hwrite o).1 ((hmem o).mp ho)]
    · rw [(hwrite o).2 fun hid => ho ((hmem o).mpr hid)]
  · -- the node is written with and without the lists of the pools
    have hset : setProfileOf profile_id (fun profile => profile.withAttr attr) db =
        setBufferProfile ptr (fun profile => profile.withAttr attr) db := by
      unfold setProfileOf
      rw [htree]
      rfl
    have hsetself : (setBufferProfile ptr (fun profile => profile.withAttr attr) db).profiles.get ptr =
        some (profile.withAttr attr) := by
      show (db.profiles.modify ptr _).get ptr = _
      rw [Heap.get_modify_self, hget]
      rfl
    have hwanted := @userProfile_write profile_id db ptr hlinked htree
      (setBufferProfile ptr (fun profile => profile.withAttr attr) db) (profile.withAttr attr) rfl
      (fun _ => rfl) hsetself fun q hq => Heap.get_modify_of_ne _ _ hq
    rw [hset]
    refine ⟨fun o => ?_, fun o => ?_⟩
    · by_cases hid : getBufferProfileId db o = some profile_id
      · rw [(hwrite o).1 hid, (hwanted o).1 hid]
      · rw [(hwrite o).2 hid, (hwanted o).2 hid]
    · have hcapacity := congrArg (Option.map fun sized => (sized.1, sized.2.1)) (hsized o)
      rw [Option.map_map, Option.map_map] at hcapacity
      exact hcapacity
  · have hroom := h.room hnodup hold hpool
    have hlt := pool.size.isLt
    omega

theorem ProfileSizeOk.of_trees {env} {attr} {db'} (hsame : TreesSame db db')
    (h : ProfileSizeOk env profile_id attr db) : ProfileSizeOk env profile_id attr db' := by
  unfold ProfileSizeOk at h ⊢
  rw [profileNeed_of_trees hsame, hsame.pools]
  intro profile pool hprofile
  rw [hsame.profileNodeGet] at hprofile
  exact h profile pool hprofile

variable {env : QosEnv} {attr : ProfileAttr} {buf_size : BitVec 32} {is_add : Bool} {checked : QosDb}

/-- A pool has the shared size that it had before the value was stored. -/
theorem storeProfileAttr_shared (hget : db.profiles.get ptr = some profile) (attr)
    {o} {pool'} (hpool' : (storeProfileAttr ptr attr db).pools o = some pool') :
    ∃ pool, db.pools o = some pool ∧ pool'.shared_size = pool.shared_size := by
  have hsized := storeProfileAttr_sized attr hget o
  rw [hpool'] at hsized
  obtain ⟨pool, hpool, heq⟩ := Option.map_eq_some_iff.mp hsized.symm
  simp only [BufferPool.sized, Prod.mk.injEq] at heq
  exact ⟨pool, hpool, heq.2.2.symm⟩

theorem PoolsSized.recalcKept (h : PoolsSized db) (hlinked : UsersLinked db)
    (htree : db.profile_tree profile_id = some ptr) (hget : db.profiles.get ptr = some profile)
    (hok : ProfileSizeOk env profile_id attr db) (hattr : attr.id ≠ .poolId)
    (hchecked : TreesSame db checked)
    (hsize : (checkBufferSize env attr profile checked).1 = .ok (buf_size, is_add)) :
    PoolsSized (bufferProfileRecalc env attr profile.buffer_pool_id profile.buffer_pool_id buf_size
      is_add (storeProfileAttr ptr attr db)) := by
  have hprofile : db.profileNodeGet profile_id = some profile :=
    Option.bind_eq_some_iff.mpr ⟨ptr, htree, hget⟩
  obtain ⟨hwith, -, hroom⟩ := h.stored hlinked htree hget attr
  have hpoolid : (profile.withAttr attr).buffer_pool_id = profile.buffer_pool_id := by
    cases attr with
    | poolId oid => exact absurd rfl hattr
    | _ => rfl
  have hbeforeof : ∀ o, needOf db (some profile) o =
      if profile.buffer_pool_id = o then profileNeed db profile else 0 := fun _ => rfl
  have hafterof : ∀ o, needOf db (some (profile.withAttr attr)) o =
      if profile.buffer_pool_id = o then profileNeed db (profile.withAttr attr) else 0 := by
    intro o
    show (if (profile.withAttr attr).buffer_pool_id = o then _ else 0) = _
    rw [hpoolid]
  -- what the check found, and what the NPU takes
  have hmoves : ∀ pool, db.pools profile.buffer_pool_id = some pool →
      (if is_add = true then
        profile.num_ref * profileNeed db (profile.withAttr attr) =
          profile.num_ref * profileNeed db profile + buf_size.toNat ∧ buf_size ≤ pool.shared_size
      else profile.num_ref * profileNeed db profile =
        profile.num_ref * profileNeed db (profile.withAttr attr) + buf_size.toNat) ∧
      (buf_size = 0 ∨ TakesPoolSize env profile.buffer_pool_id) := by
    intro pool hpool
    have hbound : profile.num_ref * profileNeed db (profile.withAttr attr) -
        profile.num_ref * profileNeed db profile < 2 ^ 32 ∧
        (profile.num_ref * profileNeed db (profile.withAttr attr) =
          profile.num_ref * profileNeed db profile ∨ TakesPoolSize env profile.buffer_pool_id) := by
      have hcond := hok profile pool hprofile hpool
      cases attr with
      | poolId oid => exact absurd rfl hattr
      | _ =>
        exact hcond
    have hfits := hroom _ pool hpool
    rw [hbeforeof, if_pos rfl] at hfits
    have hmove := checkBufferSize_moves hsize hattr (hchecked.pools ▸ hpool)
    rw [profileNeed_of_trees hchecked] at hmove
    have hmove' := hmove (by omega) hbound.1
    refine ⟨hmove', hbound.2.imp_left fun heq => ?_⟩
    have hzero : buf_size.toNat = 0 := by
      split at hmove' <;> omega
    exact BitVec.eq_of_toNat_eq hzero
  have hlive : ∀ pool', (storeProfileAttr ptr attr db).pools profile.buffer_pool_id = some pool' →
      ∃ pool, db.pools profile.buffer_pool_id = some pool ∧ pool'.shared_size = pool.shared_size :=
    fun pool' => storeProfileAttr_shared hget attr
  have htaken : TreesSame (setBufferPool profile.buffer_pool_id (BufferPool.recalc buf_size is_add)
      (storeProfileAttr ptr attr db))
      (bufferPoolSizeRecalc env profile.buffer_pool_id buf_size is_add
        (storeProfileAttr ptr attr db)).2 := by
    refine bufferPoolSizeRecalc_taken ?_ fun hadd pool' hpool' => ?_
    · cases hpool' : (storeProfileAttr ptr attr db).pools profile.buffer_pool_id with
      | none => exact .inr (.inl hpool')
      | some pool' =>
        obtain ⟨pool, hpool, -⟩ := hlive pool' hpool'
        exact (hmoves pool hpool).2.imp_right .inr
    · obtain ⟨pool, hpool, hshared⟩ := hlive pool' hpool'
      have hmove := (hmoves pool hpool).1
      rw [if_pos hadd] at hmove
      rw [hshared]
      exact hmove.2
  have hlast : TreesSame (setBufferPool profile.buffer_pool_id (BufferPool.recalc buf_size is_add)
      (storeProfileAttr ptr attr db))
      (bufferProfileRecalc env attr profile.buffer_pool_id profile.buffer_pool_id buf_size is_add
        (storeProfileAttr ptr attr db)) := by
    cases attr with
    | poolId oid => exact absurd rfl hattr
    | bufferSize u32 => exact htaken
    | xoffTh u32 => exact htaken
    | _ =>
      cases hsize
      refine (setBufferPool_same fun pool _ => ?_).symm
      simp [BufferPool.recalc]
  refine poolsSized_iff.mpr (hwith.settle (fun o ho => ?_) (fun pool' hpool' => ?_) hlast)
  · simp only [hbeforeof, hafterof]
    rw [if_neg (Ne.symm ho), if_neg (Ne.symm ho)]
  · obtain ⟨pool, hpool, hshared⟩ := hlive pool' hpool'
    have hfits := hroom _ pool hpool
    have hmove := (hmoves pool hpool).1
    simp only [hbeforeof, hafterof, if_pos] at hfits ⊢
    rw [hshared]
    exact ⟨hfits, hmove⟩

/-- **A value that takes the profile to another pool**, where it needs the same. -/
theorem PoolsSized.recalcMoved {oid} (h : PoolsSized db) (hlinked : UsersLinked db)
    (htree : db.profile_tree profile_id = some ptr) (hget : db.profiles.get ptr = some profile)
    (hok : ProfileSizeOk env profile_id (.poolId oid) db) (hchecked : TreesSame db checked)
    (hvalue : checkBufferProfileAttrValue checked (.poolId oid) profile = .success)
    (hsize : (checkBufferSize env (.poolId oid) profile checked).1 = .ok (buf_size, is_add)) :
    PoolsSized (bufferProfileRecalc env (.poolId oid) profile.buffer_pool_id pool_id buf_size
      is_add (storeProfileAttr ptr (.poolId oid) db)) := by
  have hprofile : db.profileNodeGet profile_id = some profile :=
    Option.bind_eq_some_iff.mpr ⟨ptr, htree, hget⟩
  obtain ⟨hwith, -, hroom⟩ := h.stored hlinked htree hget (.poolId oid)
  -- both pools are there
  obtain ⟨old, new, hold, hnew⟩ : ∃ old new, db.pools profile.buffer_pool_id = some old ∧
      db.pools oid = some new := by
    simp only [checkBufferProfileAttrValue] at hvalue
    split at hvalue
    next hcompatible =>
      unfold isBufferPoolCompatible at hcompatible
      rw [hchecked.pools] at hcompatible
      split at hcompatible
      · exact ⟨_, _, ‹_›, ‹_›⟩
      · cases hcompatible
    · cases hvalue
  obtain ⟨hsame, htakes⟩ := hok profile old hprofile hold (by rw [hnew]; rfl)
  have hfits := hroom _ old hold
  have hbeforeof : ∀ o, needOf db (some profile) o =
      if profile.buffer_pool_id = o then profileNeed db profile else 0 := fun _ => rfl
  have hafterof : ∀ o, needOf db (some (profile.withAttr (.poolId oid))) o =
      if oid = o then profileNeed db (profile.withAttr (.poolId oid)) else 0 := fun _ => rfl
  rw [hbeforeof, if_pos rfl] at hfits
  -- what the check found
  have hcharge : bufferProfileCharge checked profile = bufferProfileCharge db profile := by
    unfold bufferProfileCharge bufferProfileReservedXoffTh isBufferPoolXoffSizeConfigured
    rw [hchecked.pools]
  obtain ⟨hbuf, havailable⟩ : buf_size.toNat = profile.num_ref * profileNeed db profile ∧
      buf_size ≤ new.shared_size := by
    have hsize' : (if isBufferPoolAvailable checked oid (BitVec.ofNat 32 profile.num_ref *
        bufferProfileCharge checked profile) = false then
          ((.error .insufficientResources, checked) : Except Status (BitVec 32 × Bool) × QosDb)
        else (.ok (BitVec.ofNat 32 profile.num_ref * bufferProfileCharge checked profile, false),
          checked)).1 = .ok (buf_size, is_add) := hsize
    rw [hcharge] at hsize'
    split at hsize'
    · cases hsize'
    rename_i hroomy
    cases hsize'
    refine ⟨toNat_ofNat_mul_charge (by omega), ?_⟩
    unfold isBufferPoolAvailable at hroomy
    rw [hchecked.pools, hnew] at hroomy
    simpa using hroomy
  have hzero : profile.num_ref * profileNeed db profile = 0 → buf_size = 0 := by
    intro hnone
    exact BitVec.eq_of_toNat_eq (hbuf.trans hnone)
  have hshared : ∀ o pool', (storeProfileAttr ptr (.poolId oid) db).pools o = some pool' →
      ∃ pool, db.pools o = some pool ∧ pool'.shared_size = pool.shared_size :=
    fun o pool' => storeProfileAttr_shared hget (.poolId oid)
  have hwrap : ∀ pool', (storeProfileAttr ptr (.poolId oid) db).pools profile.buffer_pool_id =
      some pool' → pool'.shared_size.toNat + buf_size.toNat < 2 ^ 32 := by
    intro pool' hpool'
    obtain ⟨pool, hpool, heq⟩ := hshared _ pool' hpool'
    obtain rfl := Option.some.inj (hpool.symm.trans hold)
    rw [heq, hbuf]
    exact hfits
  have hroomy : ∀ pool', (storeProfileAttr ptr (.poolId oid) db).pools oid = some pool' →
      buf_size ≤ pool'.shared_size := by
    intro pool' hpool'
    obtain ⟨pool, hpool, heq⟩ := hshared _ pool' hpool'
    obtain rfl := Option.some.inj (hpool.symm.trans hnew)
    rw [heq]
    exact havailable
  have hmid := @bufferPoolSizeRecalc_taken profile.buffer_pool_id
    (storeProfileAttr ptr (.poolId oid) db) env buf_size false (htakes.imp hzero fun htakes => .inr htakes.1)
    fun hno => absurd hno (by decide)
  have hlast := @bufferPoolSizeRecalc_taken oid _ env buf_size true
    (htakes.imp hzero fun htakes => .inr htakes.2) fun _ pool' hpool' =>
      recalc_room hwrap hroomy hmid hpool'
  refine poolsSized_iff.mpr (hwith.settleBoth (fun o ho => ?_) (fun o ho => ?_)
    (fun pool' hpool' => ⟨?_, hwrap pool' hpool'⟩) hmid (fun pool' hpool' => ⟨?_, ?_⟩) hlast)
  · simp only [hbeforeof]
    rw [if_neg (Ne.symm ho), Nat.mul_zero]
  · simp only [hafterof]
    rw [if_neg (Ne.symm ho), Nat.mul_zero]
  · simp only [hbeforeof, if_pos]
    exact hbuf.symm
  · simp only [hafterof, if_pos]
    rw [hsame, hbuf]
  · exact recalc_room hwrap hroomy hmid hpool'

end Set

theorem PoolsSized.setProfile (h : PoolsSized db) (hlinked : UsersLinked db) {env}
    {attr} (hok : ProfileSizeOk env profile_id attr db) :
    let x := bufferProfileAttrSet env profile_id attr db
    PoolsSized x.2 ∧
    (x.1 = .success → SizesSame (setProfileOf profile_id (fun profile => profile.withAttr attr) db) x.2) ∧
    (x.1 ≠ .success → PlainSame db x.2) := by
  intro x
  rcases bufferProfileAttrSet_cases env _ _ db with
    ⟨hfail, hsame⟩ | ⟨hsuccess, ptr, profile, buf_size, is_add, checked, stored, hset⟩
  · exact ⟨h.of_trees hsame, fun hok => absurd hok hfail, fun _ => .of_trees hsame⟩
  have hstored := hset.users
  have htree : stored.profile_tree profile_id = some ptr := hstored.profile_tree ▸ hset.tree
  have hget : stored.profiles.get ptr = some profile := hstored.profiles ▸ hset.node
  have hlinked' := hlinked.same (.of_trees hstored)
  have hsized' := h.of_trees hstored
  have hok' := hok.of_trees hstored
  have hchecked : TreesSame stored checked := hstored.symm.trans hset.start
  have hrecalc := hset.recalc
  have hupdated : (updateBufferProfileNode ptr 0 [attr] stored).2 = storeProfileAttr ptr attr stored := by
    rcases updateBufferProfileNode_cons ptr 0 _ [] _ with ⟨-, heq⟩ | ⟨-, rc, hrc, heq⟩
    · rw [heq]
      rfl
    have hupdate := hset.update
    rw [heq] at hupdate
    exact absurd hupdate hrc
  rw [hupdated, storeProfileAttr_get _ hget] at hrecalc
  refine ⟨PoolsSized.of_trees hrecalc ?_, fun _ => ?_, fun hfail => absurd hsuccess hfail⟩
  · by_cases hattr : attr.id = .poolId
    · cases attr with
      | poolId oid =>
        exact hsized'.recalcMoved hlinked' htree hget hok' hchecked hset.value hset.size
      | _ =>
        cases hattr
    have hkept := hsized'.recalcKept hlinked' htree hget hok' hattr hchecked hset.size
    cases attr with
    | poolId oid => exact absurd rfl hattr
    | _ =>
      exact hkept
  · obtain ⟨-, hsizes, -⟩ := hsized'.stored hlinked' htree hget _
    have hwanted : TreesSame (setProfileOf profile_id (fun profile => profile.withAttr attr) db)
        (setProfileOf profile_id (fun profile => profile.withAttr attr) stored) := by
      unfold setProfileOf
      rw [htree, hset.tree]
      refine ⟨hstored.wreds, hstored.pools, ?_, hstored.profile_tree, hstored.ports, hstored.queues,
        hstored.pgs, hstored.port_pools, hstored.port_pool_of⟩
      show stored.profiles.modify ptr _ = db.profiles.modify ptr _
      rw [hstored.profiles]
    refine SizesSame.trans ?_ (.of_trees hrecalc)
    exact bufferProfileRecalc_keeps (P := SizesSame _)
      (fun _ _ _ _ h => h.trans (.recalc _ _ _ _)) _ _ _ _ is_add
      ((SizesSame.of_trees hwanted).trans hsizes)

/-! ## A user takes another profile -/

section User

theorem BufferProfile.taken_removeUser : (profile.removeUser o).taken = profile.taken := by
  simp only [BufferProfile.removeUser]
  split <;> rfl

theorem BufferProfile.taken_addUser : (profile.addUser o).taken = profile.taken := by
  simp only [BufferProfile.addUser]
  split <;> rfl

theorem profileNeed_init (db) : profileNeed db bufferProfileInit = 0 := by
  unfold profileNeed bufferProfileReservedXoffTh
  split <;> rfl

theorem needOf_default (hlinked : UsersLinked db) {profile}
    (h : profileOrDefault db profile_id = some profile) (pool_id) :
    needOf db (db.profileNodeGet profile_id) pool_id =
      if profile.buffer_pool_id = pool_id then profileNeed db profile else 0 := by
  unfold profileOrDefault at h
  split at h
  next hnull =>
    cases h
    rw [hnull, hlinked.get_null, profileNeed_init, ite_self]
    rfl
  · rw [h]
    rfl

theorem toNat_charge {profile}
    (h : profileOrDefault db profile_id = some profile) (hfits : profileNeed db profile < 2 ^ 32) :
    (if profile_id ≠ .null then bufferProfileCharge db profile else 0).toNat =
      profileNeed db profile := by
  unfold profileOrDefault at h
  split at h
  next hnull =>
    cases h
    rw [if_ok hnull, profileNeed_init]
    rfl
  rename_i hnull
  rw [if_pos hnull]
  unfold bufferProfileCharge
  rw [BitVec.toNat_add]
  exact Nat.mod_eq_of_lt hfits

variable {object_id old_profile_id : Oid} {cur : QosDb}

theorem PoolsSized.relinked (h : PoolsSized db) (hlinked : UsersLinked db)
    (hold : getBufferProfileId db object_id = some old_profile_id) (hne : old_profile_id ≠ profile_id)
    (hre : Relinked object_id old_profile_id profile_id db cur) :
    PoolsSizedWith (needOf db (db.profileNodeGet old_profile_id))
      (needOf db (db.profileNodeGet profile_id)) cur ∧
    SizesSame (setBufferProfileId object_id profile_id db) cur ∧
    ∀ pool_id pool, db.pools pool_id = some pool →
      pool.shared_size.toNat + needOf db (db.profileNodeGet old_profile_id) pool_id < 2 ^ 32 := by
  have htaken : ∀ o, (cur.profileNodeGet o).map BufferProfile.taken =
      (db.profileNodeGet o).map BufferProfile.taken := by
    intro o
    rw [hre.get]
    split
    · rw [Option.map_map]
      congr 1
      funext profile
      exact profile.taken_removeUser _
    split
    · rw [Option.map_map]
      congr 1
      funext profile
      exact profile.taken_addUser _
    · rfl
  have huser : ∀ db' o id, getBufferProfileId db' o = some id →
      userProfile db' o = db'.profileNodeGet id := by
    intro db' o id hid
    unfold userProfile
    rw [hid]
    rfl
  have hkept : ∀ o, o ≠ object_id → (userProfile cur o).map BufferProfile.taken =
      (userProfile db o).map BufferProfile.taken := by
    intro o ho
    have hid := hre.users o
    rw [if_neg ho] at hid
    cases hget : getBufferProfileId db o with
    | none =>
      unfold userProfile
      rw [hid, hget]
      rfl
    | some id => rw [huser cur o id (hid.trans hget), huser db o id hget, htaken]
  have hbefore : ∀ o ∈ [object_id], (userProfile db o).map BufferProfile.taken =
      (db.profileNodeGet old_profile_id).map BufferProfile.taken := by
    intro o ho
    rw [List.mem_singleton.mp ho, huser db object_id old_profile_id hold]
  have hself : getBufferProfileId cur object_id = some profile_id := (hre.users _).trans (if_pos rfl)
  have hone : ∀ profile o, [object_id].length * needOf db profile o = needOf db profile o :=
    fun _ _ => Nat.one_mul _
  refine ⟨?_, ?_, fun pool_id pool hpool => ?_⟩
  · have hchange := @PoolsSized.changeUsers db cur [object_id] (db.profileNodeGet old_profile_id)
      (db.profileNodeGet profile_id) h (List.nodup_singleton object_id) hbefore
      (fun o ho => by rw [List.mem_singleton.mp ho, huser cur object_id profile_id hself, htaken])
      (fun o ho => hkept o fun heq => ho (List.mem_singleton.mpr heq))
      fun o => by rw [hre.pools]
    simp only [hone] at hchange
    exact hchange
  · obtain ⟨hsettree, hsetpools, hsetprofiles⟩ := setBufferProfileId_kept _ _ db
    have hsetget : (setBufferProfileId object_id profile_id db).profileNodeGet = db.profileNodeGet := by
      funext o
      unfold profileNodeGet
      rw [hsettree, hsetprofiles]
    refine ⟨fun o => ?_, fun o => by rw [hre.pools, hsetpools]⟩
    have hset := getBufferProfileId_set hold profile_id o
    rw [← hre.users o] at hset
    cases hget : getBufferProfileId cur o with
    | none =>
      unfold userProfile
      rw [hset, hget]
      rfl
    | some id => rw [huser cur o id hget, huser _ o id (hset.trans hget), hsetget, htaken]
  · have hroom := h.room (List.nodup_singleton object_id) hbefore hpool
    rw [hone] at hroom
    have hlt := pool.size.isLt
    omega

variable {env : QosEnv} {profile old_profile : BufferProfile} {old_size new_size tmp_size : BitVec 32}
  {is_add check_th : Bool}

theorem PoolsSized.recalcUserKept {more less : Oid → ℕ}
    (hwith : PoolsSizedWith more less cur) (hheld : ProfilesHeld db) (hpools : cur.pools = db.pools)
    (hmore : ∀ o, more o = if pool_id = o then before else 0)
    (hless : ∀ o, less o = if pool_id = o then after else 0)
    (hroom : ∀ pool, db.pools pool_id = some pool → pool.shared_size.toNat + before < 2 ^ 32)
    (hold : ∀ pool, db.pools pool_id = some pool → old_size.toNat = before) (hnew : new_size.toNat = after)
    (htakes : after = before ∨ PoolTakes env pool_id db)
    (hcalc : calcPoolSize db pool_id pool_id check_th old_size new_size = .ok (tmp_size, is_add)) :
    PoolsSized (objBufferProfileRecalc env pool_id pool_id old_size new_size tmp_size is_add cur) := by
  have hsize : ∀ pool, db.pools pool_id = some pool → tmp_size ≤ pool.shared_size ∧
      if is_add = true then after = before + tmp_size.toNat else before = after + tmp_size.toNat := by
    intro pool hpool
    have hne : pool_id ≠ .null := hheld.ne_null _ (by rw [hpool]; rfl)
    rw [← hold pool hpool, ← hnew]
    simp only [calcPoolSize, if_true] at hcalc
    split at hcalc
    · cases hcalc
    rename_i tmp add hsized
    split at hcalc
    · cases hcalc
    rename_i havailable
    obtain ⟨rfl, rfl⟩ := Prod.mk.inj (Except.ok.inj hcalc)
    have hroomy : tmp ≤ pool.shared_size := by
      by_contra hno
      refine havailable ⟨hne, ?_⟩
      unfold isBufferPoolAvailable
      rw [hpool]
      simpa using hno
    refine ⟨hroomy, ?_⟩
    split at hsized
    next hlt =>
      cases hsized
      have hle := BitVec.lt_def.mp hlt
      rw [if_pos rfl, BitVec.toNat_sub_of_le (BitVec.le_of_lt hlt)]
      omega
    rename_i hle
    cases hsized
    have hle' := BitVec.le_def.mp (BitVec.not_lt.mp hle)
    rw [if_neg (by decide), BitVec.toNat_sub_of_le (BitVec.not_lt.mp hle)]
    omega
  have hlast : TreesSame (setBufferPool pool_id (BufferPool.recalc tmp_size is_add) cur)
      (objBufferProfileRecalc env pool_id pool_id old_size new_size tmp_size is_add cur) := by
    simp only [objBufferProfileRecalc, if_true]
    refine bufferPoolSizeRecalc_taken ?_ fun _ pool hpool => (hsize pool (hpools ▸ hpool)).1
    cases hpool : db.pools pool_id with
    | none => exact .inr (.inl (hpools ▸ hpool))
    | some pool =>
      refine htakes.imp (fun heq => ?_) fun htakes => ?_
      · have hdiff := (hsize pool hpool).2
        have hzero : tmp_size.toNat = 0 := by split at hdiff <;> omega
        exact BitVec.eq_of_toNat_eq hzero
      · exact htakes.imp_left fun hnone => hpools ▸ hnone
  refine poolsSized_iff.mpr (hwith.settle (fun o ho => ?_) (fun pool hpool => ?_) hlast)
  · rw [hmore, hless, if_neg (Ne.symm ho), if_neg (Ne.symm ho)]
  · rw [hpools] at hpool
    obtain ⟨hroomy, hdiff⟩ := hsize pool hpool
    rw [hmore, hless, if_pos rfl, if_pos rfl]
    refine ⟨hroom pool hpool, ?_⟩
    split at hdiff
    next hadd =>
      rw [if_pos hadd]
      exact ⟨hdiff, hroomy⟩
    rename_i hadd
    rw [if_neg hadd]
    exact hdiff

theorem PoolsSized.recalcUserMoved {more less : Oid → ℕ} {new_pool_id}
    (hwith : PoolsSizedWith more less cur) (hheld : ProfilesHeld db) (hpools : cur.pools = db.pools)
    (hne : pool_id ≠ new_pool_id) (hmore : ∀ o, more o = if pool_id = o then before else 0)
    (hless : ∀ o, less o = if new_pool_id = o then after else 0)
    (hroom : ∀ pool, db.pools pool_id = some pool → pool.shared_size.toNat + before < 2 ^ 32)
    (hold : ∀ pool, db.pools pool_id = some pool → old_size.toNat = before) (hnew : new_size.toNat = after)
    (htakes : before = 0 ∨ PoolTakes env pool_id db) (htakesnew : after = 0 ∨ PoolTakes env new_pool_id db)
    (hcalc : calcPoolSize db pool_id new_pool_id check_th old_size new_size = .ok (tmp_size, is_add)) :
    PoolsSized (objBufferProfileRecalc env pool_id new_pool_id old_size new_size tmp_size is_add cur) := by
  have havailable : ∀ pool, db.pools new_pool_id = some pool → new_size ≤ pool.shared_size := by
    intro pool hpool
    have hnull : new_pool_id ≠ .null := hheld.ne_null _ (by rw [hpool]; rfl)
    simp only [calcPoolSize, if_neg hne] at hcalc
    split at hcalc
    · cases hcalc
    rename_i tmp add hsized
    rw [if_pos hnull] at hsized
    split at hsized
    · cases hsized
    cases hsized
    split at hcalc
    · cases hcalc
    rename_i hroomy
    by_contra hno
    refine hroomy ⟨hnull, ?_⟩
    unfold isBufferPoolAvailable
    rw [hpool]
    simpa using hno
  -- no pool has the null id
  have hnone : cur.pools .null = none := by
    rw [hpools]
    by_contra hsome
    exact hheld.ne_null _ (Option.isSome_iff_ne_none.mpr hsome) rfl
  have hskip : ∀ o size add db', db'.pools .null = none → TreesSame
      (setBufferPool o (BufferPool.recalc size add) db') (bufferPoolSizeRecalc env o size add db').2 →
      TreesSame (setBufferPool o (BufferPool.recalc size add) db')
        (if o ≠ .null then (bufferPoolSizeRecalc env o size add db').2 else db') := by
    intro o size add db' hdb' htaken
    split
    · exact htaken
    rename_i hnull
    refine (setBufferPool_same fun pool hpool => ?_).symm
    rw [not_not.mp hnull, hdb'] at hpool
    cases hpool
  have hmid := hskip pool_id old_size false cur hnone (@bufferPoolSizeRecalc_taken _ _ env _ _ (by
    cases hpool : db.pools pool_id with
    | none => exact .inr (.inl (hpools ▸ hpool))
    | some pool =>
      refine htakes.imp (fun hzero => ?_) fun htakes => htakes.imp_left fun hnone => hpools ▸ hnone
      exact BitVec.eq_of_toNat_eq ((hold pool hpool).trans hzero)) fun hno => absurd hno (by decide))
  have hwrap : ∀ pool, cur.pools pool_id = some pool →
      pool.shared_size.toNat + old_size.toNat < 2 ^ 32 := by
    intro pool hpool
    rw [hpools] at hpool
    rw [hold pool hpool]
    exact hroom pool hpool
  simp only [objBufferProfileRecalc, if_neg hne]
  generalize (if pool_id ≠ .null then (bufferPoolSizeRecalc env pool_id old_size false cur).2 else cur)
    = left at hmid ⊢
  have hleft : ∀ o, db.pools o = none → left.pools o = none := by
    intro o ho
    rw [hmid.pools]
    show (if o = pool_id then (cur.pools o).map _ else cur.pools o) = none
    rw [hpools, ho]
    split <;> rfl
  have hroomy : ∀ pool, left.pools new_pool_id = some pool → new_size ≤ pool.shared_size :=
    fun pool hpool => recalc_room hwrap (fun pool hpool => havailable pool (hpools ▸ hpool)) hmid hpool
  have hlast := hskip new_pool_id new_size true left (hleft .null (hpools ▸ hnone))
    (@bufferPoolSizeRecalc_taken _ _ env _ _ (by
      refine htakesnew.imp (fun hzero => ?_) fun htakes => htakes.imp_left fun hnone => hleft _ hnone
      exact BitVec.eq_of_toNat_eq (hnew.trans hzero)) fun _ pool hpool => hroomy pool hpool)
  refine poolsSized_iff.mpr (hwith.settleBoth (fun o ho => ?_) (fun o ho => ?_)
    (fun pool hpool => ⟨?_, hwrap pool hpool⟩) hmid (fun pool hpool => ⟨?_, hroomy pool hpool⟩) hlast)
  · rw [hmore, if_neg (Ne.symm ho)]
  · rw [hless, if_neg (Ne.symm ho)]
  · rw [hmore, if_pos rfl]
    exact (hold pool (hpools ▸ hpool)).symm
  · rw [hless, if_pos rfl]
    exact hnew.symm

end User

theorem PoolsSized.updateUser (h : PoolsSized db) (hlinked : UsersLinked db)
    (hheld : ProfilesHeld db) {env} {object_id}
    (hok : UserSizeOk env object_id profile_id db) :
    let x := objUpdateBufferProfile env object_id profile_id db
    PoolsSized x.2 ∧
    (x.1 = .success → SizesSame (setBufferProfileId object_id profile_id db) x.2) ∧
    (x.1 ≠ .success → PlainSame db x.2) := by
  intro x
  rcases objUpdateBufferProfile_cases env object_id profile_id db with
    ⟨hfail, hsame⟩ | ⟨hsuccess, hid, heq⟩ |
    ⟨hsuccess, old_profile_id, profile, old_profile, tmp_size, is_add, applied, hset⟩
  · exact ⟨h.of_trees hsame, fun hok => absurd hok hfail, fun _ => .of_trees hsame⟩
  · refine ⟨heq ▸ h, fun _ => ?_, fun hfail => absurd hsuccess hfail⟩
    -- the user has the profile already
    have hset := getBufferProfileId_set hid profile_id
    obtain ⟨hsettree, hsetpools, hsetprofiles⟩ := setBufferProfileId_kept object_id profile_id db
    have heq' : x.2 = db := heq
    rw [heq']
    refine ⟨fun o => ?_, fun o => by rw [hsetpools]⟩
    have hsame : getBufferProfileId (setBufferProfileId object_id profile_id db) o =
        getBufferProfileId db o := by
      rw [hset]
      split
      next ho => rw [ho, hid]
      · rfl
    unfold userProfile
    rw [hsame]
    have hget : (setBufferProfileId object_id profile_id db).profileNodeGet = db.profileNodeGet := by
      funext o
      unfold profileNodeGet
      rw [hsettree, hsetprofiles]
    rw [hget]
  obtain ⟨-, old, hold, hrelink⟩ := objUpdateBufferProfileNode_ok hset.update
  have hlinked' := hlinked.same (.of_trees hset.call)
  have husers := (UsersSame.of_trees hset.call).users
  obtain rfl := Option.some.inj ((hold.symm.trans (husers object_id)).trans hset.old)
  have hreapplied := relinkUser_spec hlinked' hold hset.ne
  rw [← hrelink] at hreapplied
  have hre : Relinked object_id old profile_id db
      (objUpdateBufferProfileNode object_id profile_id applied).2 := by
    refine ⟨hreapplied.tree.trans hset.call.profile_tree, hreapplied.pools.trans hset.call.pools,
      fun o => by rw [hreapplied.users, husers], fun o => ?_⟩
    rw [hreapplied.get, hset.call.profileNodeGet]
  obtain ⟨hwith, hsizes, hroom⟩ := h.relinked hlinked hset.old hset.ne hre
  have hmore := needOf_default hlinked hset.before
  have hless := needOf_default hlinked hset.new
  obtain ⟨hfits, htakes⟩ := hok old profile old_profile hset.old hset.ne hset.new hset.before
  have hroom' : ∀ pool, db.pools old_profile.buffer_pool_id = some pool →
      pool.shared_size.toNat + profileNeed db old_profile < 2 ^ 32 := by
    intro pool hpool
    have hlt := hroom _ pool hpool
    rw [hmore, if_pos rfl] at hlt
    exact hlt
  have holdsize : ∀ pool, db.pools old_profile.buffer_pool_id = some pool →
      (if old ≠ .null then bufferProfileCharge db old_profile else 0).toNat =
        profileNeed db old_profile := by
    intro pool hpool
    have hlt := hroom' pool hpool
    exact toNat_charge hset.before (by omega)
  refine ⟨PoolsSized.of_trees hset.recalc ?_, fun _ => ?_, fun hfail => absurd hsuccess hfail⟩
  · by_cases hpool : old_profile.buffer_pool_id = profile.buffer_pool_id
    · rw [if_pos hpool] at htakes
      have hcalc := hset.size
      rw [hpool] at hcalc hmore hroom' holdsize ⊢
      exact PoolsSized.recalcUserKept hwith hheld hre.pools hmore hless hroom' holdsize
        (toNat_charge hset.new hfits) htakes hcalc
    rw [if_neg hpool] at htakes
    exact PoolsSized.recalcUserMoved hwith hheld hre.pools hpool hmore hless hroom' holdsize
      (toNat_charge hset.new hfits) htakes.1 htakes.2 hset.size
  · refine SizesSame.trans ?_ (.of_trees hset.recalc)
    exact objBufferProfileRecalc_keeps (P := SizesSame _)
      (fun _ _ _ _ h => h.trans (.recalc _ _ _ _)) _ _ _ _ _ is_add hsizes

end OpxSai
