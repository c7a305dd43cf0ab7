import OpxSai.Qos.BufferNeeds

/-!
# Sizes that fit

A pool has room for its XOFF size and for what its users need. Pools come with room and take sizes that
have it; profiles come and go without users.
-/

namespace OpxSai

open QosDb
variable {db : QosDb} {env : QosEnv} {o : Oid} {profile : BufferProfile}
variable {attr_list : List ProfileAttr} {db' : QosDb} {pool_id : Oid} {ptr : Nat}

/-! ## Sizes, but for what is shared -/

/-- The size of every pool has room for its XOFF size and for what its users need. -/
def PoolsFit (db : QosDb) : Prop :=
  ∀ pool_id pool, db.pools pool_id = some pool → ∃ used, Spent (UsesPool db pool_id) (userNeed db) used ∧
    pool.xoff_size.toNat + used ≤ pool.size.toNat

theorem PoolsSized.fit (h : PoolsSized db) : PoolsFit db := by
  intro pool_id pool hpool
  obtain ⟨used, hspent, hsum⟩ := h pool_id pool hpool
  exact ⟨used, hspent, by omega⟩

def BufferPool.capacity (pool : BufferPool) : BitVec 32 × BitVec 32 := (pool.size, pool.xoff_size)

structure SizesSame (db db' : QosDb) : Prop where
  users : ∀ o, (userProfile db' o).map BufferProfile.taken = (userProfile db o).map BufferProfile.taken
  pools : ∀ o, (db'.pools o).map BufferPool.capacity = (db.pools o).map BufferPool.capacity

namespace SizesSame

theorem symm (h : SizesSame db db') : SizesSame db' db :=
  ⟨fun o => (h.users o).symm, fun o => (h.pools o).symm⟩

theorem trans {db₁ db₂ db₃} (h : SizesSame db₁ db₂) (h' : SizesSame db₂ db₃) :
    SizesSame db₁ db₃ :=
  ⟨fun o => (h'.users o).trans (h.users o), fun o => (h'.pools o).trans (h.pools o)⟩

theorem needs (h : SizesSame db db') : NeedsSame db db' := by
  refine ⟨h.users, fun o profile _ => ?_⟩
  have hpool := congrArg (Option.map Prod.snd) (h.pools profile.buffer_pool_id)
  rw [Option.map_map, Option.map_map] at hpool
  exact hpool

theorem of_plain (h : PlainSame db db') : SizesSame db db' := by
  refine ⟨(NeedsSame.of_plain h).users, fun o => ?_⟩
  have hplain := congrArg (Option.map BufferPool.capacity) (h.pools o)
  rw [Option.map_map, Option.map_map] at hplain
  exact hplain

theorem of_trees (h : TreesSame db db') : SizesSame db db' :=
  of_plain (.of_trees h)

theorem recalc (pool_id) (size : BitVec 32) (is_add : Bool) (db) :
    SizesSame db (bufferPoolSizeRecalc env pool_id size is_add db).2 := by
  rcases bufferPoolSizeRecalc_cases env _ _ _ db with ⟨-, hsame⟩ | ⟨-, -, -, -, hsame⟩
  · exact of_trees hsame
  have hset : SizesSame db (setBufferPool pool_id (BufferPool.recalc size is_add) db) := by
    refine ⟨fun _ => rfl, fun o => ?_⟩
    show (if o = pool_id then (db.pools o).map _ else db.pools o).map _ = _
    split
    · rw [Option.map_map]
      rfl
    · rfl
  exact hset.trans (of_trees hsame)

end SizesSame

theorem PoolsFit.same (hsame : SizesSame db db') (h : PoolsFit db) : PoolsFit db' := by
  intro pool_id pool' hpool'
  have hcapacity := hsame.pools pool_id
  rw [hpool'] at hcapacity
  obtain ⟨pool, hpool, heq⟩ := Option.map_eq_some_iff.mp hcapacity.symm
  simp only [BufferPool.capacity, Prod.mk.injEq] at heq
  obtain ⟨used, hspent, hle⟩ := h pool_id pool hpool
  exact ⟨used, hsame.needs.spent hspent, by rw [← heq.1, ← heq.2]; exact hle⟩

/-! ## Pools come, go and take another size -/

section Pools

theorem userProfile_tree (h : userProfile db o = some profile) :
    ∃ ptr, InProfileTree db ptr ∧ db.profiles.get ptr = some profile := by
  obtain ⟨profile_id, -, hget⟩ := Option.bind_eq_some_iff.mp h
  obtain ⟨ptr, hptr, hnode⟩ := Option.bind_eq_some_iff.mp hget
  exact ⟨ptr, ⟨profile_id, hptr⟩, hnode⟩

theorem NeedsSame.of_unnamed (htree : db'.profile_tree = db.profile_tree)
    (hprofiles : db'.profiles = db.profiles)
    (husers : ∀ o, getBufferProfileId db' o = getBufferProfileId db o)
    (hunnamed : ∀ ptr profile, InProfileTree db ptr → db.profiles.get ptr = some profile →
      profile.buffer_pool_id ≠ pool_id) (hpools : ∀ o, o ≠ pool_id → db'.pools o = db.pools o) :
    NeedsSame db db' := by
  refine ⟨fun o => ?_, fun o profile hprofile => ?_⟩
  · unfold userProfile
    have hnode : db'.profileNodeGet = db.profileNodeGet := by
      funext profile_id
      unfold profileNodeGet
      rw [htree, hprofiles]
    rw [husers, hnode]
  · obtain ⟨ptr, hptr, hget⟩ := userProfile_tree hprofile
    rw [hpools _ (hunnamed ptr profile hptr hget)]

theorem PoolsSized.of_plain (hsame : PlainSame db db') (h : PoolsSized db) :
    PoolsSized db' :=
  poolsSized_iff.mpr (PoolsSizedWith.of_plain hsame (poolsSized_iff.mp h))

theorem PoolsSized.of_trees (hsame : TreesSame db db') (h : PoolsSized db) :
    PoolsSized db' :=
  h.of_plain (.of_trees hsame)

theorem insertPoolNode_needs (hheld : ProfilesHeld db) (hnone : db.pools pool_id = none)
    (hne : pool_id ≠ .null) {new} :
    NeedsSame db (insertPoolNode pool_id new db) ∧
    Spent (UsesPool (insertPoolNode pool_id new db) pool_id) (userNeed (insertPoolNode pool_id new db))
      0 := by
  have hunnamed : ∀ ptr profile, InProfileTree db ptr → db.profiles.get ptr = some profile →
      profile.buffer_pool_id ≠ pool_id := by
    rintro ptr profile hptr hget rfl
    rcases hheld.known ptr _ hptr hget with hnull | hlive
    · exact hne hnull
    · rw [hnone] at hlive
      cases hlive
  have hneeds : NeedsSame db (insertPoolNode pool_id new db) :=
    .of_unnamed rfl rfl (fun _ => rfl) hunnamed fun o ho => if_neg ho
  refine ⟨hneeds, hneeds.spent (.of_none ?_)⟩
  rintro u ⟨profile, hprofile, hid⟩
  obtain ⟨ptr, hptr, hget⟩ := userProfile_tree hprofile
  exact hunnamed ptr profile hptr hget hid

theorem uoidCreate_pool_ne_null {hw_id : Nat} : uoidCreate .bufferPool hw_id ≠ .null :=
  fun heq => absurd (congrArg Oid.type heq) (by simp [uoidCreate, Oid.null])

theorem PoolsSized.createPool (h : PoolsSized db) (hheld : ProfilesHeld db) {attr_list} :
    PoolsSized (createBufferPool env attr_list db).2 := by
  rcases createBufferPool_cases with
    ⟨-, hsame⟩ | ⟨-, hnone, pool, pool', hvalid, hzero, -, -, hsame⟩
  · exact h.of_plain hsame
  refine PoolsSized.of_plain hsame ?_
  obtain ⟨hneeds, hspent⟩ := insertPoolNode_needs hheld hnone
    uoidCreate_pool_ne_null
  generalize uoidCreate _ _ = pool_id at hneeds hspent ⊢
  intro o new hnew
  have hread : (if o = pool_id then some { pool' with wred_id := .null } else db.pools o) = some new :=
    hnew
  split at hread
  next ho =>
    cases hread
    refine ⟨0, ho ▸ hspent, ?_⟩
    rw [hvalid.shared, hzero]
    have hshared : 0 + pool.size - 0 - pool.xoff_size + 0 = pool.size - pool.xoff_size := by simp
    show (0 + pool.size - 0 - pool.xoff_size + 0).toNat + pool.xoff_size.toNat + 0 = pool.size.toNat
    rw [hshared, BitVec.toNat_sub_of_le hvalid.xoff]
    have hle := BitVec.le_def.mp hvalid.xoff
    omega
  · obtain ⟨used, hspent, hsum⟩ := h o new hread
    exact ⟨used, hneeds.spent hspent, hsum⟩

theorem PoolsSized.removePool (h : PoolsSized db) (hheld : ProfilesHeld db) {pool_id} :
    PoolsSized (removeBufferPool env pool_id db).2 := by
  obtain ⟨hiff, ⟨-, hsame⟩ | ⟨hok, hsame⟩⟩ := removeBufferPool_cases
  · exact h.of_trees hsame
  refine PoolsSized.of_trees hsame ?_
  obtain ⟨gone, hgone, hnum, -⟩ := hiff.mp hok
  have hread : ∀ o, (removePoolNode pool_id db).pools o = if o = pool_id then none else db.pools o :=
    fun _ => rfl
  have hneeds : NeedsSame db (removePoolNode pool_id db) :=
    .of_unnamed rfl rfl (fun _ => rfl) (hheld.unnamed hgone hnum) fun o ho =>
      (hread o).trans (if_neg ho)
  intro o pool hpool
  rw [hread] at hpool
  split at hpool
  · cases hpool
  · obtain ⟨used, hspent, hsum⟩ := h o pool hpool
    exact ⟨used, hneeds.spent hspent, hsum⟩

/-- A new size of a pool may not leave its shared size below what an `int` can tell to be negative. -/
def PoolSizeOk (pool_id : Oid) (attr : PoolAttr) (db : QosDb) : Prop :=
  match attr with
  | .size u32 => ∀ pool, db.pools pool_id = some pool → pool.xoff_size ≤ u32 →
    pool.size.toNat ≤ pool.shared_size.toNat + u32.toNat + 2 ^ 31
  | _ => True

/-- A difference that an `int` tells not to be negative, and that is not too far below zero, is exact. -/
theorem toNat_of_int_nonneg {a b c : BitVec 32} (hroom : 0 ≤ (a + b - c).toInt)
    (hle : a.toNat ≤ c.toNat) (hbound : c.toNat ≤ a.toNat + b.toNat + 2 ^ 31) :
    (a + b - c).toNat + c.toNat = a.toNat + b.toNat := by
  rw [BitVec.toInt_eq_toNat_cond] at hroom
  split at hroom
  · bv_omega
  · have hlt := (a + b - c).isLt
    omega

/-- **A pool takes another size**, if what it shares is not told to be negative. -/
theorem PoolsSized.setPool (h : PoolsSized db) {attr} (hok : PoolSizeOk pool_id attr db) :
    PoolsSized (bufferPoolAttrSet env pool_id attr db).2 := by
  rcases bufferPoolAttrSet_cases env pool_id attr db with
    ⟨hsame, -⟩ | ⟨-, pool, pool', u32, rfl, hpool, hvalid, hsame⟩
  · exact h.of_plain hsame
  refine PoolsSized.of_trees hsame ?_
  have hbound : pool.size.toNat ≤ pool.shared_size.toNat + u32.toNat + 2 ^ 31 :=
    hok pool hpool hvalid.xoff
  have hneeds : NeedsSame db (setBufferPool pool_id (fun _ => pool') db) := by
    refine .setBufferPool fun pool₁ hpool₁ => ?_
    obtain rfl := Option.some.inj (hpool₁.symm.trans hpool)
    rw [hvalid.shared]
  intro o new hnew
  have hread : (if o = pool_id then (db.pools o).map fun _ => pool' else db.pools o) = some new := hnew
  split at hread
  next ho =>
    subst ho
    rw [hpool] at hread
    cases hread
    obtain ⟨used, hspent, hsum⟩ := h o pool hpool
    refine ⟨used, hneeds.spent hspent, ?_⟩
    have hroom := hvalid.room
    rw [hvalid.shared] at hroom ⊢
    have hshared : pool.shared_size + u32 - pool.size - pool.xoff_size + pool.xoff_size =
        pool.shared_size + u32 - pool.size := BitVec.sub_add_cancel _ _
    show (pool.shared_size + u32 - pool.size - pool.xoff_size + pool.xoff_size).toNat +
      pool.xoff_size.toNat + used = u32.toNat
    have hroom' : 0 ≤ (pool.shared_size + u32 - pool.size - pool.xoff_size + pool.xoff_size).toInt := hroom
    rw [hshared] at hroom' ⊢
    have hexact := toNat_of_int_nonneg hroom' (by omega) hbound
    omega
  · obtain ⟨used, hspent, hsum⟩ := h o new hread
    exact ⟨used, hneeds.spent hspent, hsum⟩

end Pools

/-! ## Profiles come and go -/

section Profiles

theorem userProfile_congr (hid : getBufferProfileId db' o = getBufferProfileId db o)
    (hget : ∀ profile_id, getBufferProfileId db o = some profile_id →
      db'.profileNodeGet profile_id = db.profileNodeGet profile_id) :
    userProfile db' o = userProfile db o := by
  unfold userProfile
  rw [hid]
  cases hprofile : getBufferProfileId db o with
  | none => rfl
  | some profile_id => exact hget profile_id hprofile

theorem PoolsSized.same (husers : ∀ o, userProfile db' o = userProfile db o)
    (hpools : ∀ o, (db'.pools o).map BufferPool.sized = (db.pools o).map BufferPool.sized)
    (h : PoolsSized db) : PoolsSized db' := by
  have hneeds : NeedsSame db db' := by
    refine ⟨fun o => by rw [husers], fun o profile _ => ?_⟩
    have hsized := congrArg (Option.map fun sized => sized.2.1) (hpools profile.buffer_pool_id)
    rw [Option.map_map, Option.map_map] at hsized
    exact hsized
  exact poolsSized_iff.mpr (PoolsSizedWith.same hneeds hpools (poolsSized_iff.mp h))

theorem storeProfileAttr_sized (attr) (hget : db.profiles.get ptr = some profile) (o) :
    ((storeProfileAttr ptr attr db).pools o).map BufferPool.sized =
      (db.pools o).map BufferPool.sized := by
  cases attr with
  | poolId oid =>
    show ((moveBufferPool ptr oid db).pools o).map _ = _
    cases hpool' : (moveBufferPool ptr oid db).pools o with
    | none =>
      have hlive := moveBufferPool_live ptr oid db o
      rw [hpool'] at hlive
      cases hpool : db.pools o with
      | none => rfl
      | some pool =>
        rw [hpool] at hlive
        cases hlive
    | some pool' =>
      obtain ⟨pool, hpool, hsized, -⟩ := moveBufferPool_pool hget hpool'
      rw [hpool]
      exact congrArg some hsized
  | _ => rfl

theorem storeProfileAttr_other {q : Nat} (attr) (db) (hq : q ≠ ptr) :
    (storeProfileAttr ptr attr db).profiles.get q = db.profiles.get q := by
  cases attr with
  | poolId oid =>
    show (moveBufferPool ptr oid db).profiles.get q = _
    simp only [moveBufferPool]
    split <;> exact Heap.get_modify_of_ne _ _ hq
  | _ =>
    exact Heap.get_modify_of_ne _ _ hq

theorem updateBufferProfileNode_frame :
    ∀ attr_idx db profile, db.profiles.get ptr = some profile →
    (∀ o, ((updateBufferProfileNode ptr attr_idx attr_list db).2.pools o).map BufferPool.sized =
      (db.pools o).map BufferPool.sized) ∧
    (∀ q, q ≠ ptr →
      (updateBufferProfileNode ptr attr_idx attr_list db).2.profiles.get q = db.profiles.get q) := by
  induction attr_list with
  | nil => exact fun _ _ _ _ => ⟨fun _ => rfl, fun _ _ => rfl⟩
  | cons attr attr_list ih =>
    intro attr_idx db profile hget
    rcases updateBufferProfileNode_cons ptr _ _ _ db with
      ⟨-, heq⟩ | ⟨-, rc, -, heq⟩
    · obtain ⟨hpools, hother⟩ := ih (attr_idx + 1) (storeProfileAttr ptr attr db)
        (profile.withAttr attr) (storeProfileAttr_get _ hget)
      rw [heq]
      exact ⟨fun o => (hpools o).trans (storeProfileAttr_sized _ hget o),
        fun q hq => (hother q hq).trans (storeProfileAttr_other _ db hq)⟩
    · rw [heq]
      exact ⟨fun _ => rfl, fun _ _ => rfl⟩

theorem PoolsSized.createProfile (h : PoolsSized db) (hlinked : UsersLinked db) :
    PoolsSized (createBufferProfile env attr_list db).2 := by
  rcases createBufferProfile_cases env attr_list db with ⟨-, hsame, -⟩ | ⟨-, start, hstart, hcase⟩
  · exact h.of_trees hsame
  simp only at hcase
  have husers := (hstart.users hlinked).trans
    (updateBufferProfileNode_users db.profiles.next attr_list 0 start)
  obtain ⟨hpools, hother⟩ :=
    updateBufferProfileNode_frame 0 _ _ hstart.get
  generalize updateBufferProfileNode _ 0 _ _ = updated at *
  rw [hstart.pools] at hpools
  -- the profiles of the tree are at other addresses
  have hnode : ∀ o ptr, db.profile_tree o = some ptr →
      ptr ≠ db.profiles.next ∧ updated.2.profiles.get ptr = db.profiles.get ptr := by
    intro o ptr hptr
    have hne : ptr ≠ db.profiles.next := by
      rintro rfl
      exact hlinked.fresh ⟨o, hptr⟩
    refine ⟨hne, (hother ptr hne).trans ?_⟩
    exact hstart.get_old hlinked ⟨o, hptr⟩
  have hbind : ∀ (tree : Option Nat) (heap heap' : Heap BufferProfile),
      (∀ ptr, tree = some ptr → heap'.get ptr = heap.get ptr) →
      tree.bind heap'.get = tree.bind heap.get := by
    intro tree heap heap' hheap
    cases tree with
    | none => rfl
    | some ptr => exact hheap ptr rfl
  rcases hcase with ⟨-, -, hsame⟩ | ⟨-, htaken, hsame⟩
  · refine PoolsSized.of_trees hsame (h.same (fun o => ?_) hpools)
    refine userProfile_congr (husers.users o) fun profile_id _ => ?_
    show (updated.2.profile_tree profile_id).bind (updated.2.profiles.free db.profiles.next).get = _
    rw [husers.tree]
    refine hbind _ _ _ fun ptr hptr => ?_
    rw [Heap.get_free_of_ne _ (hnode profile_id ptr hptr).1, (hnode profile_id ptr hptr).2]
  refine PoolsSized.of_trees hsame (h.same (fun o => ?_) hpools)
  have hnone := htaken.2.2.2
  have htype : (uoidCreate .bufferProfile env.hw_profile_id).type = .bufferProfile := rfl
  generalize uoidCreate _ _ = new_id at hnone htype ⊢
  refine userProfile_congr (husers.users o) fun profile_id hid => ?_
  have hne : profile_id ≠ new_id := by
    rintro rfl
    rcases hlinked.known o _ hid with rfl | hlive
    · cases htype
    unfold profileNodeGet at hlive
    rw [hnone] at hlive
    cases hlive
  show (if profile_id = new_id then some db.profiles.next else updated.2.profile_tree profile_id).bind
    (updated.2.profiles.modify db.profiles.next _).get = _
  rw [if_neg hne, husers.tree]
  refine hbind _ _ _ fun ptr hptr => ?_
  rw [Heap.get_modify_of_ne _ _ (hnode profile_id ptr hptr).1, (hnode profile_id ptr hptr).2]

theorem PoolsSized.removeProfile (h : PoolsSized db) (hlinked : UsersLinked db) {profile_id} :
    PoolsSized (removeBufferProfile env profile_id db).2 := by
  obtain ⟨-, ⟨-, hsame⟩ | ⟨hok, ptr, profile, mid, hptr, hget, hnum, hmid, hsame⟩⟩ :=
    removeBufferProfile_cases
  · exact h.of_trees hsame
  have hunused := ((hlinked.removes env _).mp hok).2.1
  have hmidusers := UsersSame.of_trees hmid
  have hmidlinked := hlinked.same hmidusers
  have hmidsized := h.of_trees hmid
  rw [← hmid.profile_tree] at hptr
  rw [← hmid.profiles] at hget
  have hgone := bufferProfileNodeRemoveFromTree_gone hmidlinked hptr hget hnum
  refine PoolsSized.of_trees hsame (hmidsized.same (fun o => ?_) fun o => ?_)
  · refine userProfile_congr ?_ fun other hother => ?_
    · simp only [bufferProfileNodeRemoveFromTree]
      rw [if_ok hnum]
      rfl
    · have hne : other ≠ profile_id := by
        rintro rfl
        rw [hmidusers.users] at hother
        exact hunused o hother
      unfold profileNodeGet
      cases hq : mid.profile_tree other with
      | none =>
        cases hq' : (freeBufferProfile ptr
            (bufferProfileNodeRemoveFromTree ptr profile mid)).profile_tree other with
        | none => rfl
        | some q =>
          have hback := ((hgone.tree _ q).mp hq').2
          rw [hq] at hback
          cases hback
      | some q =>
        rw [(hgone.tree _ q).mpr ⟨hne, hq⟩]
        exact hgone.node q (hgone.ne _ q hne hq)
  · simp only [bufferProfileNodeRemoveFromTree]
    rw [if_ok hnum]
    show (if o = profile.buffer_pool_id then (mid.pools o).map _ else mid.pools o).map _ = _
    split
    · rw [Option.map_map]
      rfl
    · rfl

end Profiles

end OpxSai
