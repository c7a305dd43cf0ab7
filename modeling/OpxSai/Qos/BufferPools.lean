import OpxSai.Qos.BufferUsers

/-!
# Profiles and the pools that they name

A pool counts the profiles that name it. Where a create of a profile fails the pool counts one too many;
it never counts too few, and so no pool is removed while a profile names it.

* `PoolsHeld` — a pool that is named is there, and counts those that name it.
-/

namespace OpxSai

open QosDb
variable {ptr : Nat} {member : Nat → Prop} {env : QosEnv} {profile_id : Oid}
variable {pool_id : Oid} {db db' : QosDb}

/-! ## Property -/

/-- The pools that some profiles name are there, and count at least these. -/
structure PoolsHeld (member : Nat → Prop) (db : QosDb) : Prop where
  ne_null : ∀ pool_id, (db.pools pool_id).isSome = true → pool_id ≠ .null
  known : ∀ ptr profile, member ptr → db.profiles.get ptr = some profile →
    profile.buffer_pool_id = .null ∨ (db.pools profile.buffer_pool_id).isSome = true
  counted : ∀ pool_id pool, db.pools pool_id = some pool → ∀ ptrs : List Nat, ptrs.Nodup →
    (∀ ptr ∈ ptrs, member ptr ∧ ∃ profile, db.profiles.get ptr = some profile ∧
      profile.buffer_pool_id = pool_id) → ptrs.length ≤ pool.num_ref

namespace PoolsHeld

variable {member' : Nat → Prop}

theorem same (hsame : PoolsSameFor member db db') (h : PoolsHeld member db) : PoolsHeld member db' := by
  constructor
  · intro pool_id hlive
    rw [hsame.live _] at hlive
    exact h.ne_null _ hlive
  · intro ptr profile' hptr hget'
    obtain ⟨profile, hget, heq⟩ := (hsame.node hptr).mp ⟨profile', hget', rfl⟩
    rw [hsame.live, ← heq]
    exact h.known ptr _ hptr hget
  · intro pool_id pool' hpool' ptrs hnodup hnamed
    obtain ⟨pool, hpool, hnum, -⟩ := hsame.pool hpool'
    rw [hnum]
    refine h.counted _ _ hpool _ hnodup fun ptr hptr => ?_
    obtain ⟨hmember, hnode⟩ := hnamed ptr hptr
    exact ⟨hmember, (hsame.node hmember).mp hnode⟩

theorem mono (himp : ∀ ptr, member' ptr → member ptr) (h : PoolsHeld member db) :
    PoolsHeld member' db := by
  refine ⟨h.ne_null, fun ptr profile hptr => h.known ptr _ (himp ptr hptr), ?_⟩
  intro pool_id pool hpool ptrs hnodup hnamed
  exact h.counted _ _ hpool _ hnodup fun ptr hptr =>
    ⟨himp ptr (hnamed ptr hptr).1, (hnamed ptr hptr).2⟩

theorem add (h : PoolsHeld member db) {profile}
    (hget : db.profiles.get ptr = some profile) (hnull : profile.buffer_pool_id = .null) :
    PoolsHeld (fun q => member q ∨ q = ptr) db := by
  refine ⟨h.ne_null, ?_, ?_⟩
  · rintro q profile' (hq | rfl) hget'
    · exact h.known q _ hq hget'
    · obtain rfl := Option.some.inj (hget'.symm.trans hget)
      exact .inl hnull
  · intro pool_id pool hpool ptrs hnodup hnamed
    refine h.counted _ _ hpool _ hnodup fun q hq => ?_
    obtain ⟨hmember, hnode⟩ := hnamed q hq
    refine ⟨hmember.resolve_right ?_, hnode⟩
    rintro rfl
    obtain ⟨profile', hget', hid⟩ := hnode
    obtain rfl := Option.some.inj (hget'.symm.trans hget)
    exact h.ne_null _ (by rw [hpool]; rfl) (hid.symm.trans hnull)

end PoolsHeld

/-! ## A profile goes to another pool -/

def BufferPool.sized (pool : BufferPool) : BitVec 32 × BitVec 32 × BitVec 32 :=
  (pool.size, pool.xoff_size, pool.shared_size)

section Move

variable {profile : BufferProfile}

theorem moveBufferPool_pool (hget : db.profiles.get ptr = some profile) {o}
    {pool'} (hpool' : (moveBufferPool ptr pool_id db).pools o = some pool') :
    ∃ pool, db.pools o = some pool ∧ pool'.sized = pool.sized ∧
      pool'.num_ref = (if profile.buffer_pool_id ≠ .null ∧ o = profile.buffer_pool_id then
        pool.num_ref - 1 else pool.num_ref) + if o = pool_id then 1 else 0 := by
  have hjoin : ∀ mid pool', (joinBufferPool ptr pool_id mid).pools o = some pool' →
      ∃ pool, mid.pools o = some pool ∧ pool'.sized = pool.sized ∧
        pool'.num_ref = pool.num_ref + if o = pool_id then 1 else 0 := by
    intro mid pool' hread
    have hread' : (if o = pool_id then (mid.pools o).map fun pool =>
        { pool with buffer_profiles := pool.buffer_profiles ++ [ptr], num_ref := pool.num_ref + 1 }
        else mid.pools o) = some pool' := hread
    by_cases ho : o = pool_id
    · rw [if_pos ho] at hread'
      obtain ⟨pool, hpool, rfl⟩ := Option.map_eq_some_iff.mp hread'
      exact ⟨pool, hpool, rfl, by rw [if_pos ho]⟩
    · rw [if_neg ho] at hread'
      exact ⟨pool', hread', rfl, by rw [if_neg ho]; rfl⟩
  simp only [moveBufferPool, hget, Option.elim_some] at hpool'
  by_cases hnull : profile.buffer_pool_id ≠ .null
  · rw [if_pos hnull] at hpool'
    obtain ⟨left, hleft, hsized, hnum⟩ := hjoin _ _ hpool'
    have hread : (if o = profile.buffer_pool_id then (db.pools o).map fun pool =>
        { pool with buffer_profiles := pool.buffer_profiles.erase ptr, num_ref := pool.num_ref - 1 }
        else db.pools o) = some left := hleft
    by_cases ho : o = profile.buffer_pool_id
    · rw [if_pos ho] at hread
      obtain ⟨pool, hpool, rfl⟩ := Option.map_eq_some_iff.mp hread
      exact ⟨pool, hpool, hsized, by rw [if_pos ⟨hnull, ho⟩, hnum]⟩
    · rw [if_neg ho] at hread
      exact ⟨left, hread, hsized, by rw [if_neg fun hno => ho hno.2, hnum]⟩
  · rw [if_neg hnull] at hpool'
    obtain ⟨pool, hpool, hsized, hnum⟩ := hjoin _ _ hpool'
    exact ⟨pool, hpool, hsized, by rw [if_neg fun hno => hnull hno.1, hnum]⟩

/-- **A profile goes to another pool**: one counts one more, and the other one less. -/
theorem moveBufferPool_held (h : PoolsHeld member db)
    (hget : db.profiles.get ptr = some profile) (hmember : member ptr)
    (hlive : (db.pools pool_id).isSome = true) :
    PoolsHeld member (moveBufferPool ptr pool_id db) := by
  have hself := moveBufferPool_get pool_id hget
  have hother : ∀ q, q ≠ ptr →
      (moveBufferPool ptr pool_id db).profiles.get q = db.profiles.get q := by
    intro q hq
    simp only [moveBufferPool]
    split <;> exact Heap.get_modify_of_ne _ _ hq
  constructor
  · intro o ho
    rw [moveBufferPool_live] at ho
    exact h.ne_null o ho
  · intro q profile' hq hget'
    rw [moveBufferPool_live]
    by_cases hqptr : q = ptr
    · rw [hqptr, hself] at hget'
      cases hget'
      exact .inr hlive
    · rw [hother q hqptr] at hget'
      exact h.known q _ hq hget'
  · intro o pool' hpool' ptrs hnodup hnamed
    obtain ⟨pool, hpool, -, hnum⟩ := moveBufferPool_pool hget hpool'
    have ho : o ≠ .null := h.ne_null o (by rw [hpool]; rfl)
    -- the others named this pool before
    have hrest : ∀ q ∈ ptrs.erase ptr, member q ∧ ∃ profile, db.profiles.get q = some profile ∧
        profile.buffer_pool_id = o := by
      intro q hq
      obtain ⟨hne, hin⟩ := hnodup.mem_erase_iff.mp hq
      obtain ⟨hqmember, hnode⟩ := hnamed q hin
      rw [hother q hne] at hnode
      exact ⟨hqmember, hnode⟩
    have hcount : (if profile.buffer_pool_id = o then (ptrs.erase ptr).length + 1
        else (ptrs.erase ptr).length) ≤ pool.num_ref := by
      split
      next hid =>
        have hcons := h.counted o _ hpool _
          (List.nodup_cons.mpr ⟨hnodup.not_mem_erase, hnodup.erase ptr⟩)
        refine hcons fun q hq => ?_
        rcases List.mem_cons.mp hq with rfl | hq
        · exact ⟨hmember, profile, hget, hid⟩
        · exact hrest q hq
      · exact h.counted o _ hpool _ (hnodup.erase ptr) hrest
    rw [hnum]
    have hlength : ptrs.length ≤ (ptrs.erase ptr).length + if o = pool_id then 1 else 0 := by
      by_cases hin : ptr ∈ ptrs
      · obtain ⟨-, profile', hget', hid⟩ := hnamed ptr hin
        rw [hself] at hget'
        cases hget'
        rw [if_pos hid.symm, List.length_erase_of_mem hin]
        omega
      · rw [List.erase_of_not_mem hin]
        omega
    by_cases hid : profile.buffer_pool_id = o
    · rw [if_pos hid] at hcount
      rw [if_pos ⟨hid ▸ ho, hid.symm⟩]
      omega
    rw [if_neg hid] at hcount
    rw [if_neg fun hno => hid hno.2.symm]
    omega

end Move

theorem updateBufferProfileNode_held (hmember : member ptr) (attr_list) :
    ∀ attr_idx db profile, PoolsHeld member db →
    db.profiles.get ptr = some profile →
    PoolsHeld member (updateBufferProfileNode ptr attr_idx attr_list db).2 := by
  induction attr_list with
  | nil => exact fun _ db profile h _ => h
  | cons attr attr_list ih =>
    intro attr_idx db profile h hget
    rcases updateBufferProfileNode_cons ptr _ _ _ db with
      ⟨hparses, heq⟩ | ⟨-, rc, -, heq⟩
    · rw [heq]
      refine ih (attr_idx + 1) _ (profile.withAttr attr) ?_ (storeProfileAttr_get _ hget)
      cases attr with
      | poolId oid => exact moveBufferPool_held h hget hmember hparses
      | _ =>
        exact h.same (.setBufferProfile fun _ => rfl)
    · rw [heq]
      exact h

/-! ## Calls -/

def ProfilesHeld (db : QosDb) : Prop := PoolsHeld (InProfileTree db) db

theorem ProfilesHeld.same (hsame : PoolsSameFor (InProfileTree db) db db')
    (htree : db'.profile_tree = db.profile_tree) (h : ProfilesHeld db) : ProfilesHeld db' := by
  refine (PoolsHeld.same hsame h).mono fun ptr hptr => ?_
  obtain ⟨o, ho⟩ := hptr
  exact ⟨o, htree ▸ ho⟩

theorem ProfilesHeld.of_plain (hsame : PlainSame db db') (h : ProfilesHeld db) :
    ProfilesHeld db' :=
  h.same (.of_plain hsame) hsame.profile_tree

theorem ProfilesHeld.of_trees (hsame : TreesSame db db') (h : ProfilesHeld db) :
    ProfilesHeld db' :=
  h.of_plain (.of_trees hsame)

section Calls

theorem ProfilesHeld.poolRecalc (h : ProfilesHeld db) (env) (pool_id)
    (size : BitVec 32) (is_add : Bool) :
    ProfilesHeld (bufferPoolSizeRecalc env pool_id size is_add db).2 := by
  rcases bufferPoolSizeRecalc_cases env _ _ _ db with ⟨-, hsame⟩ | ⟨-, -, -, -, hsame⟩
  · exact h.of_trees hsame
  · exact ProfilesHeld.of_trees hsame (h.same (.setBufferPool fun _ _ => rfl) rfl)

theorem ProfilesHeld.createPool (h : ProfilesHeld db) {attr_list} :
    ProfilesHeld (createBufferPool env attr_list db).2 := by
  rcases createBufferPool_cases with
    ⟨-, hsame⟩ | ⟨-, hnone, pool, pool', -, -, -, -, hsame⟩
  · exact h.of_plain hsame
  refine ProfilesHeld.of_plain hsame ?_
  have hne : uoidCreate .bufferPool env.hw_pool_id ≠ .null :=
    fun heq => absurd (congrArg Oid.type heq) (by simp [uoidCreate, Oid.null])
  generalize uoidCreate _ _ = pool_id at hnone hne ⊢
  generalize ({ pool' with wred_id := .null } : BufferPool) = new
  have hread : ∀ o, (insertPoolNode pool_id new db).pools o =
      if o = pool_id then some new else db.pools o := fun _ => rfl
  refine ⟨fun o ho => ?_, fun ptr profile hptr hget => ?_, fun o pool hpool ptrs hnodup hnamed => ?_⟩
  · rw [hread] at ho
    split at ho
    next heq => exact heq ▸ hne
    · exact h.ne_null o ho
  · refine (h.known ptr _ hptr hget).imp_right fun hlive => ?_
    rw [hread]
    split
    · rfl
    · exact hlive
  · rw [hread] at hpool
    split at hpool
    next heq =>
      -- no profile names a pool before it is there
      cases ptrs with
      | nil => exact Nat.zero_le _
      | cons ptr ptrs =>
        obtain ⟨hptr, profile, hget, hid⟩ := hnamed ptr List.mem_cons_self
        rcases h.known ptr _ hptr hget with hnull | hlive
        · exact absurd (heq.symm.trans (hid.symm.trans hnull)) hne
        · rw [hid, heq, hnone] at hlive
          cases hlive
    · exact h.counted o _ hpool _ hnodup hnamed

theorem ProfilesHeld.unnamed (h : ProfilesHeld db) {pool}
    (hpool : db.pools pool_id = some pool) (hnum : pool.num_ref = 0) (ptr : Nat)
    (profile) (hptr : InProfileTree db ptr) (hget : db.profiles.get ptr = some profile) :
    profile.buffer_pool_id ≠ pool_id := by
  intro hid
  have hone := h.counted _ _ hpool _ (List.nodup_singleton ptr) fun q hq => by
    rw [List.mem_singleton.mp hq]
    exact ⟨hptr, profile, hget, hid⟩
  rw [hnum] at hone
  cases hone

theorem ProfilesHeld.removePool (h : ProfilesHeld db) {pool_id} :
    ProfilesHeld (removeBufferPool env pool_id db).2 := by
  obtain ⟨hiff, ⟨-, hsame⟩ | ⟨hok, hsame⟩⟩ := removeBufferPool_cases
  · exact h.of_trees hsame
  refine ProfilesHeld.of_trees hsame ?_
  obtain ⟨gone, hgone, hnum, -⟩ := hiff.mp hok
  have hold : ∀ o pool, (removePoolNode pool_id db).pools o = some pool → db.pools o = some pool := by
    intro o pool hread
    have hread' : (if o = pool_id then none else db.pools o) = some pool := hread
    split at hread'
    · cases hread'
    · exact hread'
  refine ⟨fun o ho => ?_, fun ptr profile hptr hget => ?_, fun o pool hread => ?_⟩
  · obtain ⟨pool, hread⟩ := Option.isSome_iff_exists.mp ho
    exact h.ne_null o (by rw [hold o pool hread]; rfl)
  · refine (h.known ptr _ hptr hget).imp_right fun hlive => ?_
    show (if profile.buffer_pool_id = pool_id then none else db.pools profile.buffer_pool_id).isSome = true
    rw [if_neg (h.unnamed hgone hnum ptr _ hptr hget)]
    exact hlive
  · exact h.counted o _ (hold o pool hread)

theorem ProfilesHeld.setPool (h : ProfilesHeld db) (env) (pool_id) (attr) :
    ProfilesHeld (bufferPoolAttrSet env pool_id attr db).2 := by
  rcases bufferPoolAttrSet_cases env _ _ db with
    ⟨hsame, -⟩ | ⟨-, pool, pool', u32, -, hpool, hshared, hsame⟩
  · exact h.of_plain hsame
  · refine ProfilesHeld.of_trees hsame (h.same (.setBufferPool fun pool₁ hpool₁ => ?_) rfl)
    obtain rfl := Option.some.inj (hpool₁.symm.trans hpool)
    rw [hshared.shared]
    rfl

theorem ProfilesHeld.createProfile (h : ProfilesHeld db) (hlinked : UsersLinked db)
    {attr_list} : ProfilesHeld (createBufferProfile env attr_list db).2 := by
  rcases createBufferProfile_cases env attr_list db with ⟨-, hsame, -⟩ | ⟨-, start, hstart, hcase⟩
  · exact h.of_trees hsame
  simp only at hcase
  have hheld : PoolsHeld (InProfileTree db) start := by
    refine PoolsHeld.same ⟨fun o => by rw [hstart.pools], fun ptr hptr => ?_⟩ h
    rw [hstart.get_old hlinked hptr]
  have hafter := updateBufferProfileNode_held (.inr rfl) attr_list 0 start bufferProfileInit
    (hheld.add hstart.get rfl) hstart.get
  have htree := (updateBufferProfileNode_tree db.profiles.next attr_list 0 start).1
  rw [hstart.profile_tree] at htree
  have hfresh := hlinked.fresh
  generalize updateBufferProfileNode _ 0 _ _ = updated at hcase hafter htree
  rcases hcase with ⟨-, -, hsame⟩ | ⟨-, -, hsame⟩
  · refine ProfilesHeld.of_trees hsame ?_
    have hold : ∀ ptr, InProfileTree (freeBufferProfile db.profiles.next updated.2) ptr →
        InProfileTree db ptr := by
      rintro ptr ⟨o, ho⟩
      exact ⟨o, htree ▸ ho⟩
    have hkept : PoolsHeld (InProfileTree (freeBufferProfile db.profiles.next updated.2)) updated.2 :=
      hafter.mono fun ptr hptr => .inl (hold ptr hptr)
    have hfree : PoolsSameFor (InProfileTree (freeBufferProfile db.profiles.next updated.2)) updated.2
        (freeBufferProfile db.profiles.next updated.2) := by
      refine ⟨fun _ => rfl, fun ptr hptr => ?_⟩
      -- a profile that is given back is not in the tree
      refine congrArg (Option.map BufferProfile.buffer_pool_id) (Heap.get_free_of_ne _ ?_)
      rintro rfl
      exact hfresh (hold _ hptr)
    exact hkept.same hfree
  · refine ProfilesHeld.of_trees hsame ?_
    generalize uoidCreate _ _ = profile_id
    have hkept : PoolsHeld (InProfileTree (insertProfileNode db.profiles.next profile_id updated.2))
        updated.2 := by
      refine hafter.mono fun ptr hptr => ?_
      obtain ⟨o, ho⟩ := hptr
      have ho' : (if o = profile_id then some db.profiles.next
          else updated.2.profile_tree o) = some ptr := ho
      split at ho'
      · exact .inr (Option.some.inj ho').symm
      · exact .inl ⟨o, htree ▸ ho'⟩
    have hnode : ∀ profile : BufferProfile,
        ({ profile with profile_id := profile_id } : BufferProfile).buffer_pool_id =
          profile.buffer_pool_id := fun _ => rfl
    have hid : PoolsSameFor (InProfileTree (insertProfileNode db.profiles.next profile_id updated.2))
        updated.2 (insertProfileNode db.profiles.next profile_id updated.2) := by
      refine ⟨fun _ => rfl, fun q _ => ?_⟩
      exact congrArg (fun heap => heap.get q)
        (Heap.map_modify_of_comp hnode updated.2.profiles db.profiles.next)
    exact hkept.same hid

theorem ProfilesHeld.removeProfile (h : ProfilesHeld db) (hlinked : UsersLinked db) :
    ProfilesHeld (removeBufferProfile env profile_id db).2 := by
  obtain ⟨-, ⟨-, hsame⟩ | ⟨-, ptr, profile, mid, hptr, hget, hnum, hmid, hsame⟩⟩ :=
    removeBufferProfile_cases
  · exact h.of_trees hsame
  refine ProfilesHeld.of_trees hsame ?_
  have hmidlinked := hlinked.same (.of_trees hmid)
  have hmidheld := h.of_trees hmid
  rw [← hmid.profile_tree] at hptr
  rw [← hmid.profiles] at hget
  have hgone := bufferProfileNodeRemoveFromTree_gone hmidlinked hptr hget hnum
  have hpool : ∀ o pool', (freeBufferProfile ptr
      (bufferProfileNodeRemoveFromTree ptr profile mid)).pools o = some pool' →
      ∃ pool, mid.pools o = some pool ∧
        pool'.num_ref = if o = profile.buffer_pool_id then pool.num_ref - 1 else pool.num_ref := by
    intro o pool' hread
    simp only [bufferProfileNodeRemoveFromTree, if_ok hnum] at hread
    have hread' : (if o = profile.buffer_pool_id then (mid.pools o).map fun pool =>
        { pool with buffer_profiles := pool.buffer_profiles.erase ptr, num_ref := pool.num_ref - 1 }
        else mid.pools o) = some pool' := hread
    split at hread'
    next ho =>
      obtain ⟨pool, hpool, rfl⟩ := Option.map_eq_some_iff.mp hread'
      exact ⟨pool, hpool, by rw [if_pos ho]⟩
    next ho => exact ⟨pool', hread', by rw [if_neg ho]⟩
  have hlive : ∀ o, ((freeBufferProfile ptr
      (bufferProfileNodeRemoveFromTree ptr profile mid)).pools o).isSome = (mid.pools o).isSome := by
    intro o
    simp only [bufferProfileNodeRemoveFromTree, if_ok hnum]
    show (if o = profile.buffer_pool_id then (mid.pools o).map _ else mid.pools o).isSome = _
    split
    · rw [Option.isSome_map]
    · rfl
  generalize freeBufferProfile _ _ = gone at hgone hpool hlive ⊢
  -- the profiles that are left were there, at other addresses
  have hleft : ∀ q, InProfileTree gone q → InProfileTree mid q ∧ q ≠ ptr ∧
      gone.profiles.get q = mid.profiles.get q := by
    rintro q ⟨o, ho⟩
    obtain ⟨hne, htree⟩ := (hgone.tree o q).mp ho
    have hq := hgone.ne o q hne htree
    exact ⟨⟨o, htree⟩, hq, hgone.node q hq⟩
  refine ⟨fun o ho => ?_, fun q profile' hq hget' => ?_, fun o pool' hpool' ptrs hnodup hnamed => ?_⟩
  · rw [hlive] at ho
    exact hmidheld.ne_null o ho
  · obtain ⟨hqmid, -, hgetq⟩ := hleft q hq
    rw [hgetq] at hget'
    rw [hlive]
    exact hmidheld.known q _ hqmid hget'
  · obtain ⟨pool, hpoolmid, hnum'⟩ := hpool o pool' hpool'
    have hnamedmid : ∀ q ∈ ptrs, InProfileTree mid q ∧ ∃ profile, mid.profiles.get q = some profile ∧
        profile.buffer_pool_id = o := by
      intro q hq
      obtain ⟨hqgone, hnode⟩ := hnamed q hq
      obtain ⟨hqmid, -, hgetq⟩ := hleft q hqgone
      rw [hgetq] at hnode
      exact ⟨hqmid, hnode⟩
    rw [hnum']
    split
    next ho =>
      -- the pool counted the profile that is gone
      have hnotin : ptr ∉ ptrs := fun hin => (hleft ptr (hnamed ptr hin).1).2.1 rfl
      have hcons := hmidheld.counted o _ hpoolmid _
        (List.nodup_cons.mpr ⟨hnotin, hnodup⟩) fun q hq => by
          rcases List.mem_cons.mp hq with rfl | hq
          · exact ⟨⟨profile_id, hptr⟩, profile, hget, ho.symm⟩
          · exact hnamedmid q hq
      rw [List.length_cons] at hcons
      omega
    · exact hmidheld.counted o pool hpoolmid ptrs hnodup hnamedmid

theorem ProfilesHeld.setProfile (h : ProfilesHeld db) {attr} :
    ProfilesHeld (bufferProfileAttrSet env profile_id attr db).2 := by
  rcases bufferProfileAttrSet_cases env profile_id attr db with
    ⟨-, hsame⟩ | ⟨-, ptr, profile, buf_size, is_add, checked, stored, hset⟩
  · exact h.of_trees hsame
  have hstored := h.of_trees hset.users
  have hptr : InProfileTree stored ptr := ⟨profile_id, by rw [hset.users.profile_tree]; exact hset.tree⟩
  have hget : stored.profiles.get ptr = some profile := by
    rw [hset.users.profiles]
    exact hset.node
  have hupdate := updateBufferProfileNode_held hptr [attr] 0 stored profile hstored hget
  have htree := (updateBufferProfileNode_tree ptr [attr] 0 stored).1
  have hupdated : ProfilesHeld (updateBufferProfileNode ptr 0 [attr] stored).2 := by
    refine hupdate.mono fun q hq => ?_
    obtain ⟨o, ho⟩ := hq
    exact ⟨o, htree ▸ ho⟩
  refine ProfilesHeld.of_trees hset.recalc ?_
  exact bufferProfileRecalc_keeps (fun _ _ _ _ h => h.poolRecalc env _ _ _) attr _ _ buf_size is_add
    hupdated

theorem ProfilesHeld.updateUser (h : ProfilesHeld db) (hlinked : UsersLinked db) {object_id} :
    ProfilesHeld (objUpdateBufferProfile env object_id profile_id db).2 := by
  rcases objUpdateBufferProfile_cases env _ _ db with
    ⟨-, hsame⟩ | ⟨-, -, heq⟩ | ⟨-, old_profile_id, profile, old_profile, tmp_size, is_add, applied, hset⟩
  · exact h.of_trees hsame
  · rw [heq]
    exact h
  have happlied := hlinked.same (.of_trees hset.call)
  obtain ⟨-, old, hold, heq⟩ := objUpdateBufferProfileNode_ok hset.update
  have hold' : some old = some old_profile_id := by
    rw [← hold, (UsersSame.of_trees hset.call).users, hset.old]
  cases hold'
  have hre := relinkUser_spec happlied hold hset.ne
  rw [← heq] at hre
  refine ProfilesHeld.of_trees hset.recalc ?_
  exact objBufferProfileRecalc_keeps (fun _ _ _ _ h => h.poolRecalc env _ _ _) _ _ _ _ _ _
    ((h.of_trees hset.call).same hre.poolsSame hre.tree)

theorem bufferStep_held (h : ProfilesHeld db) (hlinked : UsersLinked db) {c} :
    ProfilesHeld (bufferStep c db) := by
  obtain ⟨env, op⟩ := c
  cases op with
  | createPool attr_list => exact h.createPool
  | removePool pool_id => exact h.removePool
  | setPool pool_id attr => exact h.setPool env pool_id attr
  | getPool pool_id attr_list => exact h.of_trees (bufferPoolAttrGet_trees ..)
  | createProfile attr_list => exact h.createProfile hlinked
  | removeProfile profile_id => exact h.removeProfile hlinked
  | setProfile profile_id attr => exact h.setProfile
  | getProfile profile_id ids => exact h.of_trees (bufferProfileAttrGet_trees ..)
  | updateUser object_id profile_id => exact h.updateUser hlinked

end Calls

theorem ProfilesHeld.initial (h : NoBuffers db) : ProfilesHeld db := by
  refine ⟨fun o ho => ?_, ?_, fun o pool hpool => ?_⟩
  · rw [h.pools] at ho
    cases ho
  · rintro ptr profile ⟨o, ho⟩
    rw [h.profiles] at ho
    cases ho
  · rw [h.pools] at hpool
    cases hpool

/-- **Any run**: a pool that a profile names is there, and counts it. -/
theorem profilesHeld_of_run {db₀} (hnone : NoBuffers db₀)
    (hrun : Run bufferStep (fun _ _ => True) db₀ db) : ProfilesHeld db := by
  refine (hrun.induct (P := fun db => UsersLinked db ∧ ProfilesHeld db) ?_
    ⟨.initial hnone, .initial hnone⟩).2
  exact fun c _ h _ => ⟨bufferStep_users h.1, bufferStep_held h.2 h.1⟩

theorem profilesHeld_of_run_profile : ProfilesHeld onePoolProfile :=
  profilesHeld_of_run noBuffers_initial (.snoc _ (.one _ trivial) trivial)

end OpxSai
