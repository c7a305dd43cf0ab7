import OpxSai.Qos.BufferLinks
import OpxSai.Qos.BufferRecalc

/-!
# The shared size of a pool

The shared size of a pool is what its XOFF size and its users leave, in every run of calls that meet the
conditions.

* `bufferWanted`, `RefusesUnfit` — what a call asks for, and that more than a pool has is refused;
* `poolSizes_of_run` — any run.
-/

namespace OpxSai

open QosDb

/-! ## Calls -/

def BufferSizeOk (c : BufferCall) (db : QosDb) : Prop :=
  match c.op with
  | .setPool pool_id attr => PoolSizeOk pool_id attr db
  | .setProfile profile_id attr => ProfileSizeOk c.env profile_id attr db
  | .updateUser object_id profile_id => UserSizeOk c.env object_id profile_id db
  | _ => True

/-- The state that a call asks for, but for the shared sizes. -/
def bufferWanted (c : BufferCall) (db : QosDb) : QosDb :=
  match c.op with
  | .createPool attr_list =>
    insertPoolNode (uoidCreate .bufferPool c.env.hw_pool_id)
      (updateBufferPoolNode 0 none attr_list bufferPoolInit).2 db
  | .setPool pool_id (.size u32) => setBufferPool pool_id (fun pool => { pool with size := u32 }) db
  | .setProfile profile_id attr => setProfileOf profile_id (fun profile => profile.withAttr attr) db
  | .updateUser object_id profile_id => setBufferProfileId object_id profile_id db
  | _ => db

/-! ## Runs -/

/-- A call that asks for more than a pool has is refused, and changes nothing. -/
def RefusesUnfit (db : QosDb) : Prop :=
  ∀ c, BufferSizeOk c db → ¬ PoolsFit (bufferWanted c db) →
    bufferStatus c db ≠ .success ∧ PlainSame db (bufferStep c db)

structure SizesHeld (db : QosDb) : Prop where
  users : UsersLinked db
  profiles : ProfilesHeld db
  pools : PoolsSized db

theorem bufferStep_sized {db} (h : SizesHeld db) {c} (hok : BufferSizeOk c db) :
    SizesHeld (bufferStep c db) := by
  refine ⟨bufferStep_users h.users, bufferStep_held h.profiles h.users, ?_⟩
  obtain ⟨env, op⟩ := c
  cases op with
  | createPool attr_list => exact h.pools.createPool h.profiles
  | removePool pool_id => exact h.pools.removePool h.profiles
  | setPool pool_id attr => exact h.pools.setPool hok
  | getPool pool_id attr_list => exact h.pools.of_trees (bufferPoolAttrGet_trees ..)
  | createProfile attr_list => exact h.pools.createProfile h.users
  | removeProfile profile_id => exact h.pools.removeProfile h.users
  | setProfile profile_id attr => exact (h.pools.setProfile h.users hok).1
  | getProfile profile_id ids => exact h.pools.of_trees (bufferProfileAttrGet_trees ..)
  | updateUser object_id profile_id => exact (h.pools.updateUser h.users h.profiles hok).1

theorem createBufferPool_room {env} {attr_list} {db}
    (h : (createBufferPool env attr_list db).1 = .success) :
    (updateBufferPoolNode 0 none attr_list bufferPoolInit).2.xoff_size ≤
      (updateBufferPoolNode 0 none attr_list bufferPoolInit).2.size := by
  simp only [createBufferPool] at h
  split at h
  · exact absurd h ‹_›
  simp only [createBufferPoolLocked] at h
  have hvalid := @validateSharedBufferPoolSize_ok none
    (updateBufferPoolNode 0 none attr_list bufferPoolInit).2
  split at h
  · exact absurd h ‹_›
  split at h
  · cases h
  split at h
  · exact absurd h ‹_›
  next hok => exact (hvalid (not_not.mp hok)).xoff

theorem SizesHeld.refuses {db} (h : SizesHeld db) : RefusesUnfit db := by
  intro c hok hunfit
  have hafter := (bufferStep_sized h hok).pools.fit
  have hnow := h.pools.fit
  obtain ⟨env, op⟩ := c
  cases op with
  | createPool attr_list =>
    rcases createBufferPool_cases with ⟨hfail, hsame⟩ | ⟨hsuccess, hnone, -⟩
    · exact ⟨hfail, hsame⟩
    refine absurd ?_ hunfit
    obtain ⟨hneeds, hspent⟩ := insertPoolNode_needs h.profiles hnone
      uoidCreate_pool_ne_null
    intro o pool hpool
    have hread : (if o = uoidCreate .bufferPool env.hw_pool_id then
        some (updateBufferPoolNode 0 none attr_list bufferPoolInit).2 else db.pools o) = some pool := hpool
    split at hread
    next ho =>
      cases hread
      exact ⟨0, ho ▸ hspent, BitVec.le_def.mp (createBufferPool_room hsuccess)⟩
    · obtain ⟨used, hspent, hle⟩ := hnow o pool hread
      exact ⟨used, hneeds.spent hspent, hle⟩
  | setPool pool_id attr =>
    rcases bufferPoolAttrSet_cases env pool_id attr db with
      ⟨hsame, hno⟩ | ⟨hsuccess, pool, pool', u32, rfl, hpool, hvalid, hsame⟩
    · refine ⟨fun hsuccess => ?_, hsame⟩
      cases attr with
      | size u32 => exact hno hsuccess u32 rfl
      | _ => exact hunfit hnow
    · have hset : SizesSame (setBufferPool pool_id (fun pool => { pool with size := u32 }) db)
          (setBufferPool pool_id (fun _ => pool') db) := by
        refine ⟨fun _ => rfl, fun o => ?_⟩
        show (if o = pool_id then (db.pools o).map _ else db.pools o).map _ =
          (if o = pool_id then (db.pools o).map _ else db.pools o).map _
        split
        next ho =>
          rw [ho, hpool, hvalid.shared]
          rfl
        · rfl
      exact absurd (hafter.same (hset.trans (.of_trees hsame)).symm) hunfit
  | setProfile profile_id attr =>
    obtain ⟨-, hsizes, hkept⟩ := h.pools.setProfile h.users hok
    by_cases hsuccess : (bufferProfileAttrSet env profile_id attr db).1 = .success
    · exact absurd (hafter.same (hsizes hsuccess).symm) hunfit
    · exact ⟨hsuccess, hkept hsuccess⟩
  | updateUser object_id profile_id =>
    obtain ⟨-, hsizes, hkept⟩ := h.pools.updateUser h.users h.profiles hok
    by_cases hsuccess : (objUpdateBufferProfile env object_id profile_id db).1 = .success
    · exact absurd (hafter.same (hsizes hsuccess).symm) hunfit
    · exact ⟨hsuccess, hkept hsuccess⟩
  | _ => exact absurd hnow hunfit

/-- **Any run** of calls that meet the condition: the shared size of every pool is what its XOFF size
and its users leave, and a call that asks for more than a pool has is refused. -/
theorem poolSizes_of_run {db₀ db : QosDb} (hnone : NoBuffers db₀)
    (hrun : Run bufferStep BufferSizeOk db₀ db) : PoolsSized db ∧ RefusesUnfit db := by
  have hinitial : SizesHeld db₀ := by
    refine ⟨.initial hnone, .initial hnone, fun pool_id pool hpool => ?_⟩
    rw [hnone.pools] at hpool
    cases hpool
  have hheld : SizesHeld db := by
    refine hrun.induct (P := SizesHeld) ?_ hinitial
    exact fun c _ h hok => bufferStep_sized h hok
  exact ⟨hheld.pools, hheld.refuses⟩

def portProfile : BufferProfile :=
  { bufferProfileInit with
    profile_id := ⟨.bufferProfile, 4⟩, buffer_pool_id := ⟨.bufferPool, 3⟩, size := 10, dynamic_th := 1 }

theorem poolSizes_of_run_port :
    let db₁ := bufferStep ⟨.good 3, .createPool [.size 100]⟩ onePort
    let db₂ := bufferStep ⟨.good 4, .createProfile [.poolId ⟨.bufferPool, 3⟩, .bufferSize 10,
      .sharedDynamicTh 1]⟩ db₁
    let db := bufferStep ⟨.good 0, .updateUser ⟨.port, 1⟩ ⟨.bufferProfile, 4⟩⟩ db₂
    PoolsSized db ∧ RefusesUnfit db := by
  intro db₁ db₂ db
  have huser : UserSizeOk (.good 0) ⟨.port, 1⟩ ⟨.bufferProfile, 4⟩ db₂ := by
    intro old_profile_id profile old_profile hold hne hprofile hbefore
    have hnow : profileOrDefault db₂ ⟨.bufferProfile, 4⟩ = some portProfile := rfl
    have hold' : getBufferProfileId db₂ ⟨.port, 1⟩ = some .null := rfl
    obtain rfl := Option.some.inj (hprofile.symm.trans hnow)
    obtain rfl := Option.some.inj (hold.symm.trans hold')
    cases hbefore
    refine ⟨by decide, ?_⟩
    rw [if_neg (by decide)]
    exact ⟨.inl rfl, .inr (.inr fun _ _ => rfl)⟩
  exact poolSizes_of_run noBuffers_onePort (.snoc _ (.snoc _ (.one _ trivial) trivial) huser)

def noPoolSize : Outside QosCall := fun _ c =>
  match c with
  | .poolAttrSet _ _ => .failure
  | _ => .success

/-- Port 1 takes 10 of the 100 that pool 3 has, and the pool still shares 100. -/
theorem not_poolSizes_user :
    ¬ (∀ db₀ db, NoBuffers db₀ → Run bufferStep (fun _ _ => True) db₀ db → PoolsSized db) := by
  intro h
  have hrun : Run bufferStep (fun _ _ => True) onePort
      (bufferStep ⟨.answers noPoolSize 0, .updateUser ⟨.port, 1⟩ ⟨.bufferProfile, 4⟩⟩
        (bufferStep ⟨.good 4, .createProfile [.poolId ⟨.bufferPool, 3⟩, .bufferSize 10,
          .sharedDynamicTh 1]⟩ (bufferStep ⟨.good 3, .createPool [.size 100]⟩ onePort))) :=
    .snoc _ (.snoc _ (.one _ trivial) trivial) trivial
  obtain ⟨used, hspent, hsum⟩ := h _ _ noBuffers_onePort hrun ⟨.bufferPool, 3⟩ _ rfl
  have huses := @Spent.need_le Oid _ _ used hspent ⟨.port, 1⟩ ⟨_, rfl, rfl⟩
  have hneed : 10 ≤ used := huses
  have hshared : 100 + 0 + used = 100 := hsum
  omega

end OpxSai
