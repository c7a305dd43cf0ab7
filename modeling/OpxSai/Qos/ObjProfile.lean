import OpxSai.Qos.PortRestore
import OpxSai.Qos.BufferLinks

/-!
# The buffer profile of an object

Whether a pool has room for a change of profile is asked with the size that the pool is recalculated by, so
that a smaller profile of the same pool is refused when the pool has not got what the change gives back.

* `profileChangeExact_iff` — when a change is refused only for a reason, and then leaves everything.
-/

namespace OpxSai

open QosDb

structure ProfileChange (object_id profile_id old_profile_id : Oid) (profile old_profile : BufferProfile)
    (db : QosDb) : Prop where
  old : getBufferProfileId db object_id = some old_profile_id
  moves : old_profile_id ≠ profile_id
  after : profileOrDefault db profile_id = some profile
  fits : profile_id ≠ .null → isObjectBufferProfileCompatible db object_id profile = true
  before : profileOrDefault db old_profile_id = some old_profile

/-- What a profile takes of its pool for one user, and nothing if there is none. -/
def profileTakes (db : QosDb) (profile_id : Oid) (profile : BufferProfile) : BitVec 32 :=
  if profile_id ≠ .null then bufferProfileCharge db profile else 0

/-- What a change takes of the new pool beyond what the object has there. -/
def extraSize (db : QosDb) (old_profile_id profile_id : Oid) (old_profile profile : BufferProfile) :
    BitVec 32 :=
  let old_size := profileTakes db old_profile_id old_profile
  let new_size := profileTakes db profile_id profile
  if old_profile.buffer_pool_id = profile.buffer_pool_id then
    if old_size < new_size then new_size - old_size else 0
  else new_size

/-- **A change of profile fails only for a reason, and then changes nothing.** It is refused for memory,
without a call of the NPU, only if the new pool has not got what the change takes. -/
structure ProfileChangeExact (env : QosEnv) (object_id profile_id : Oid) (db : QosDb) : Prop where
  refused : objUpdateBufferProfile env object_id profile_id db = (.insufficientResources, db) →
    ∃ old_profile_id profile old_profile pool,
      ProfileChange object_id profile_id old_profile_id profile old_profile db ∧
      db.pools profile.buffer_pool_id = some pool ∧
      pool.shared_size < extraSize db old_profile_id profile_id old_profile profile
  restored : (objUpdateBufferProfile env object_id profile_id db).1 ≠ .success →
    TreesSame db (objUpdateBufferProfile env object_id profile_id db).2 ∧
    (objUpdateBufferProfile env object_id profile_id db).2.hw_profile = db.hw_profile

/-- **When it does.** A pool has in common what a smaller profile of the pool would give back. -/
def ProfileChangeFits (object_id profile_id : Oid) (db : QosDb) : Prop :=
  ∀ old_profile_id profile old_profile pool,
    ProfileChange object_id profile_id old_profile_id profile old_profile db →
    profile.buffer_pool_id ≠ .null → db.pools profile.buffer_pool_id = some pool → old_profile.buffer_pool_id = profile.buffer_pool_id →
    ¬ profileTakes db old_profile_id old_profile < profileTakes db profile_id profile →
    profileTakes db old_profile_id old_profile - profileTakes db profile_id profile ≤ pool.shared_size

variable {env : QosEnv} {object_id profile_id old_profile_id : Oid} {profile old_profile : BufferProfile} {db : QosDb}

theorem ProfileChange.inj {old_profile_id' : Oid} {profile' old_profile' : BufferProfile}
    (h : ProfileChange object_id profile_id old_profile_id profile old_profile db)
    (k : ProfileChange object_id profile_id old_profile_id' profile' old_profile' db) :
    old_profile_id' = old_profile_id ∧ profile' = profile ∧ old_profile' = old_profile := by
  obtain rfl := Option.some.inj (h.old.symm.trans k.old)
  exact ⟨rfl, Option.some.inj (k.after.symm.trans h.after), Option.some.inj (k.before.symm.trans h.before)⟩

/-- The pool is asked for the difference of the sizes, whichever is the larger. -/
def askedSize (same : Prop) [Decidable same] (old_size new_size : BitVec 32) : BitVec 32 :=
  if same then if old_size < new_size then new_size - old_size else old_size - new_size else new_size

theorem calcPoolSize_refused {old_pool_id new_pool_id : Oid} {check_th : Bool} {old_size new_size : BitVec 32}
    (h : calcPoolSize db old_pool_id new_pool_id check_th old_size new_size = .error .insufficientResources) :
    new_pool_id ≠ .null ∧ isBufferPoolAvailable db new_pool_id
      (askedSize (old_pool_id = new_pool_id) old_size new_size) = false := by
  unfold calcPoolSize at h
  unfold askedSize
  by_cases hsame : old_pool_id = new_pool_id
  · by_cases hless : old_size < new_size
    · simpa [hsame, hless] using h
    · simpa [hsame, hless] using h
  by_cases hnew : new_pool_id = .null
  · have hold : old_pool_id ≠ .null := fun hnull => hsame (hnull.trans hnew.symm)
    simp [hnew, hold] at h
  · simp only [if_neg hsame, ne_eq, hnew, not_false_eq_true, if_true, true_and] at h ⊢
    split at h
    next hcompatible => split at hcompatible <;> cases hcompatible; cases h
    rename_i hsized
    split at hsized
    · cases hsized
    cases hsized
    simpa using h

theorem ProfileChange.refused (h : ProfileChange object_id profile_id old_profile_id profile old_profile db)
    {pool : BufferPool} (hnew : profile.buffer_pool_id ≠ .null)
    (hpool : db.pools profile.buffer_pool_id = some pool)
    (hsame : old_profile.buffer_pool_id = profile.buffer_pool_id)
    (hless : ¬ profileTakes db old_profile_id old_profile < profileTakes db profile_id profile)
    (hroom : ¬ profileTakes db old_profile_id old_profile - profileTakes db profile_id profile ≤ pool.shared_size) :
    objUpdateBufferProfile env object_id profile_id db = (.insufficientResources, db) := by
  have hfits : ¬ (profile_id ≠ .null ∧ isObjectBufferProfileCompatible db object_id profile = false) :=
    fun hno => absurd (h.fits hno.1) (by simp [hno.2])
  unfold profileTakes at hless hroom
  simp only [objUpdateBufferProfile, h.old, if_neg h.moves, h.after, if_neg hfits, h.before, calcPoolSize,
    if_pos hsame, if_neg hless]
  rw [if_pos]
  refine ⟨hnew, ?_⟩
  simp only [isBufferPoolAvailable, hpool, Option.any_some, decide_eq_false_iff_not]
  exact hroom

theorem profileChange_of_refused
    (hx : objUpdateBufferProfile env object_id profile_id db = (.insufficientResources, db)) :
    ∃ old_profile_id profile old_profile, ProfileChange object_id profile_id old_profile_id profile old_profile db ∧
      profile.buffer_pool_id ≠ .null ∧ isBufferPoolAvailable db profile.buffer_pool_id
        (askedSize (old_profile.buffer_pool_id = profile.buffer_pool_id)
          (profileTakes db old_profile_id old_profile) (profileTakes db profile_id profile)) = false := by
  simp only [objUpdateBufferProfile] at hx
  split at hx
  · exact absurd (congrArg Prod.fst hx) (by simp)
  rename_i old_profile_id hold
  split at hx
  · exact absurd (congrArg Prod.fst hx) (by simp)
  rename_i hmoves
  split at hx
  · exact absurd (congrArg Prod.fst hx) (by simp)
  rename_i profile hprofile
  split at hx
  · exact absurd (congrArg Prod.fst hx) (by simp)
  rename_i hfits
  split at hx
  · exact absurd (congrArg Prod.fst hx) (by simp)
  rename_i old_profile hbefore
  refine ⟨old_profile_id, profile, old_profile, ⟨hold, hmoves, hprofile, fun hne => ?_, hbefore⟩, ?_⟩
  · by_contra hno
    exact hfits ⟨hne, Bool.eq_false_iff.mpr hno⟩
  -- every answer of the NPU is in the log
  have hlog : ∀ (db : QosDb) c, (db.call env c).2.outside_log.length = db.outside_log.length + 1 := by
    intro db c
    rw [QosDb.call_outside_log, List.length_append, List.length_singleton]
  split at hx
  next rc hcalc =>
    obtain rfl : rc = .insufficientResources := congrArg Prod.fst hx
    exact calcPoolSize_refused hcalc
  rename_i tmp_size is_add hcalc
  exfalso
  split at hx
  · have hgrown := hlog db (.profileApply object_id old_profile profile)
    rw [hx] at hgrown
    exact absurd hgrown (by simp)
  split at hx
  next hfailed =>
    have hgrown := hlog db (.profileApply object_id old_profile profile)
    have hend := congrArg (fun x => x.2.outside_log.length) hx
    simp only [objUpdateBufferProfileNode_failed _ _ _ hfailed] at hend
    split at hend
    · rw [hlog, hgrown] at hend
      omega
    · rw [hgrown] at hend
      omega
  · exact absurd (congrArg Prod.fst hx) (by simp)

/-- **When a change of profile fails only for a reason.** -/
theorem profileChangeExact_iff (env : QosEnv) (object_id profile_id : Oid) (db : QosDb) :
    ProfileChangeExact env object_id profile_id db ↔ ProfileChangeFits object_id profile_id db := by
  constructor
  · intro h old_profile_id profile old_profile pool hchange hnew hpool hsame hless
    by_contra hroom
    obtain ⟨_, _, _, pool', hchange', hpool', hlacks⟩ :=
      h.refused (hchange.refused hnew hpool hsame hless hroom)
    obtain ⟨rfl, rfl, rfl⟩ := hchange.inj hchange'
    rw [extraSize, if_pos hsame, if_neg hless] at hlacks
    exact absurd hlacks (by simp)
  · intro h
    refine ⟨fun hx => ?_, fun hfail => ⟨?_, ?_⟩⟩
    · obtain ⟨old_profile_id, profile, old_profile, hchange, hnew, hlacks⟩ := profileChange_of_refused hx
      obtain ⟨pool, hpool⟩ : ∃ pool, db.pools profile.buffer_pool_id = some pool := by
        have hnull : profile_id ≠ .null := by
          rintro rfl
          exact hnew (congrArg BufferProfile.buffer_pool_id (Option.some.inj hchange.after).symm)
        have hfits := hchange.fits hnull
        unfold isObjectBufferProfileCompatible at hfits
        split at hfits
        · cases hfits
        · exact ⟨_, ‹_›⟩
      refine ⟨old_profile_id, profile, old_profile, pool, hchange, hpool, ?_⟩
      simp only [isBufferPoolAvailable, hpool, Option.any_some, decide_eq_false_iff_not] at hlacks
      simp only [extraSize]
      unfold askedSize at hlacks
      split
      next hsame =>
        rw [if_pos hsame] at hlacks
        split
        next hless =>
          rw [if_pos hless] at hlacks
          exact BitVec.not_le.mp hlacks
        next hless =>
          rw [if_neg hless] at hlacks
          exact absurd (h _ _ _ _ hchange hnew hpool hsame hless) hlacks
      next hother =>
        rw [if_neg hother] at hlacks
        exact BitVec.not_le.mp hlacks
    · rcases objUpdateBufferProfile_cases env object_id profile_id db with ⟨-, hsame⟩ | ⟨hok, -⟩ | ⟨hok, -⟩
      · exact hsame
      · exact absurd hok hfail
      · exact absurd hok hfail
    · exact (objUpdateBufferProfile_hw env object_id profile_id db).1 hfail

def portOfEighty : QosDb :=
  let db₁ := bufferStep ⟨.good 3, .createPool [.size 100]⟩ onePort
  let db₂ := bufferStep ⟨.good 4, .createProfile [.poolId ⟨.bufferPool, 3⟩, .bufferSize 80, .sharedDynamicTh 1]⟩ db₁
  let db₃ := bufferStep ⟨.good 5, .createProfile [.poolId ⟨.bufferPool, 3⟩, .bufferSize 5, .sharedDynamicTh 1]⟩ db₂
  bufferStep ⟨.good 0, .updateUser ⟨.port, 1⟩ ⟨.bufferProfile, 4⟩⟩ db₃

/-- **The counterexample.** The port is refused the smaller profile, as the pool has not got 75. -/
theorem not_profileChangeExact_smaller :
    ¬ ProfileChangeExact (.good 0) ⟨.port, 1⟩ ⟨.bufferProfile, 5⟩ portOfEighty := by
  intro h
  obtain ⟨old_profile_id, profile, old_profile, pool, hchange, hpool, hlacks⟩ := h.refused rfl
  obtain rfl := Option.some.inj hchange.old
  obtain rfl := Option.some.inj hchange.after
  obtain rfl := Option.some.inj hchange.before
  obtain rfl := Option.some.inj hpool
  exact absurd hlacks (by decide)

end OpxSai
