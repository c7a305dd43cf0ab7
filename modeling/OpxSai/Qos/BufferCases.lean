import OpxSai.Qos.Buffer

/-!
# What the buffer calls can do

One lemma for each call, with everything it can do to the nodes. The calls that leave the module show
in the log and in the NPU only, and so they are not seen here.
-/

namespace OpxSai

open QosDb
variable {db' db : QosDb} {rc : Status}

/-! ## A link leaves all but the WREDs of the pools -/

variable (env : QosEnv) (profile : BufferProfile) (profile_id pool_id : Oid)

def BufferPool.plain (pool : BufferPool) : BufferPool :=
  { pool with wred_id := .null, is_sw_cached := false }

/-- Pools may differ in their WREDs, and nothing else differs but the WREDs themselves. -/
structure PlainSame (db db' : QosDb) : Prop where
  pools : ∀ o, (db'.pools o).map BufferPool.plain = (db.pools o).map BufferPool.plain
  profiles : db'.profiles = db.profiles
  profile_tree : db'.profile_tree = db.profile_tree
  ports : db'.ports = db.ports
  queues : db'.queues = db.queues
  pgs : db'.pgs = db.pgs
  port_pools : db'.port_pools = db.port_pools
  port_pool_of : db'.port_pool_of = db.port_pool_of

namespace PlainSame

theorem of_trees (h : TreesSame db db') : PlainSame db db' :=
  ⟨fun o => by rw [h.pools], h.profiles, h.profile_tree, h.ports, h.queues, h.pgs, h.port_pools,
    h.port_pool_of⟩

theorem trans {db₁ db₂ db₃} (h : PlainSame db₁ db₂) (h' : PlainSame db₂ db₃) :
    PlainSame db₁ db₃ :=
  ⟨fun o => (h'.pools o).trans (h.pools o), h'.profiles.trans h.profiles,
    h'.profile_tree.trans h.profile_tree, h'.ports.trans h.ports, h'.queues.trans h.queues,
    h'.pgs.trans h.pgs, h'.port_pools.trans h.port_pools, h'.port_pool_of.trans h.port_pool_of⟩

theorem wreds (wreds : Oid → Option WredNode) :
    PlainSame db { db with wreds := wreds } :=
  ⟨fun _ => rfl, rfl, rfl, rfl, rfl, rfl, rfl, rfl⟩

theorem setBufferPool (db) {f : BufferPool → BufferPool}
    (hf : ∀ pool, (f pool).plain = pool.plain) : PlainSame db (setBufferPool pool_id f db) := by
  refine ⟨fun o => ?_, rfl, rfl, rfl, rfl, rfl, rfl, rfl⟩
  show (if o = pool_id then (db.pools o).map f else db.pools o).map _ = _
  split
  · cases db.pools o with
    | none => rfl
    | some pool => simp [hf]
  · rfl

theorem setLinkWredId {wred_id} (db) :
    PlainSame db (setLinkWredId pool_id .bufferPool wred_id db) :=
  setBufferPool _ db (f := fun pool => { pool with wred_id := wred_id }) fun _ => rfl

theorem wredLinkMarkSwCache {mark : Bool} :
    PlainSame db (wredLinkMarkSwCache pool_id .bufferPool mark db) :=
  setBufferPool _ db (f := fun pool => { pool with is_sw_cached := mark }) fun _ => rfl

theorem wredLinkInsert {pool_id} (wred_id) (db) :
    PlainSame db (wredLinkInsert wred_id pool_id .bufferPool db) := by
  unfold OpxSai.wredLinkInsert
  split
  · exact (wreds _).trans (setLinkWredId _ _)
  · exact wreds _

theorem wredLinkRemove {pool_id} (wred_id) (db) :
    PlainSame db (wredLinkRemove wred_id pool_id .bufferPool db) := by
  unfold OpxSai.wredLinkRemove
  split
  · exact (wreds _).trans (setLinkWredId _ _)
  · exact wreds _

theorem wredLinkSetCache {pool_id} (rc) (db) :
    PlainSame db (wredLinkSetCache pool_id .bufferPool rc db).2 := by
  simp only [OpxSai.wredLinkSetCache]
  split
  · exact wredLinkMarkSwCache _
  split
  · exact wredLinkMarkSwCache _
  · exact wreds _

theorem wredLinkSet (env) (pool_id wred_id) (db) :
    PlainSame db (wredLinkSet env pool_id wred_id .bufferPool db).2 := by
  have hset : ∀ params, PlainSame db (npuWredLinkSet env pool_id params .bufferPool db).2 :=
    fun params => of_trees (.call db env _)
  have hreset : PlainSame db (db.call env (.wredLinkReset pool_id .bufferPool)).2 :=
    of_trees (.call db env _)
  have hadd : ∀ db', PlainSame db' (wredLinkNodeAdd pool_id wred_id .bufferPool db') := by
    intro db'
    simp only [wredLinkNodeAdd]
    split
    · exact (wredLinkRemove _ _).trans (wredLinkInsert _ _)
    · exact wredLinkInsert _ _
  simp only [OpxSai.wredLinkSet]
  split
  · exact wreds _
  split
  · split
    · exact wreds _
    rename_i node _
    refine PlainSame.trans ?_ (wredLinkSetCache _ _)
    split
    · exact (hset node.toWredParams).trans (hadd _)
    · exact hset node.toWredParams
  · split
    · exact wreds _
    refine PlainSame.trans ?_ (wredLinkSetCache _ _)
    split
    · exact hreset.trans (wredLinkRemove _ _)
    · exact hreset

end PlainSame

/-! ## The shared size -/

def BufferPool.recalc (size : BitVec 32) (is_add : Bool) (pool : BufferPool) : BufferPool :=
  { pool with
    shared_size := if is_add = true then pool.shared_size - size else pool.shared_size + size }

/-- **A recalculation** moves the shared size of a pool that has what it is to lose, or leaves it. -/
theorem bufferPoolSizeRecalc_cases (env) (pool_id) (size : BitVec 32) (is_add : Bool)
    (db) :
    let x := bufferPoolSizeRecalc env pool_id size is_add db
    (x.1 ≠ .success ∧ TreesSame db x.2) ∨
    (x.1 = .success ∧ ∃ pool, db.pools pool_id = some pool ∧
      (is_add = true → size ≤ pool.shared_size) ∧
      TreesSame (setBufferPool pool_id (BufferPool.recalc size is_add) db) x.2) := by
  intro x
  have hx : bufferPoolSizeRecalc env pool_id size is_add db = x := rfl
  clear_value x
  simp only [bufferPoolSizeRecalc] at hx
  split at hx
  · subst hx
    exact .inl ⟨by simp, .refl db⟩
  rename_i pool hpool
  split at hx
  · subst hx
    exact .inl ⟨by simp, .refl db⟩
  rename_i hroom
  generalize hset : (setBufferPool pool_id (fun pool => { pool with shared_size := if is_add = true then
      pool.shared_size - size else pool.shared_size + size }) db).call _ _ = set
    at hx
  have htrees : TreesSame (setBufferPool pool_id (BufferPool.recalc size is_add) db) set.2 := by
    rw [← hset]
    exact .call _ env _
  split at hx
  next hfail =>
    subst hx
    refine .inl ⟨hfail, ⟨htrees.wreds, ?_, htrees.profiles, htrees.profile_tree, htrees.ports,
      htrees.queues, htrees.pgs, htrees.port_pools, htrees.port_pool_of⟩⟩
    -- what was taken is given back
    funext o
    show (if o = pool_id then (set.2.pools o).map _ else set.2.pools o) = _
    rw [htrees.pools]
    by_cases ho : o = pool_id
    · rw [if_pos ho]
      show ((if o = pool_id then (db.pools o).map _ else db.pools o)).map _ = _
      rw [if_pos ho, ho, hpool]
      cases is_add <;> simp [BufferPool.recalc, BitVec.sub_add_cancel, BitVec.add_sub_cancel]
    · rw [if_neg ho]
      exact if_neg ho
  next hok =>
    subst hx
    refine .inr ⟨not_not.mp hok, pool, hpool, fun hadd => ?_, htrees⟩
    by_contra hlt
    exact hroom ⟨hadd, BitVec.not_le.mp hlt⟩

section Keeps

variable {P : QosDb → Prop} {env : QosEnv}

theorem bufferProfileRecalc_keeps (hrecalc : ∀ pool_id size is_add db, P db →
      P (bufferPoolSizeRecalc env pool_id size is_add db).2)
    (attr) (old_pool_id pool_id) (buf_size : BitVec 32) (is_add : Bool) (h : P db) :
    P (bufferProfileRecalc env attr old_pool_id pool_id buf_size is_add db) := by
  cases attr with
  | poolId oid => exact hrecalc oid buf_size true _ (hrecalc old_pool_id buf_size false db h)
  | bufferSize u32 => exact hrecalc pool_id buf_size is_add db h
  | xoffTh u32 => exact hrecalc pool_id buf_size is_add db h
  | _ => exact h

theorem objBufferProfileRecalc_keeps (hrecalc : ∀ pool_id size is_add db, P db →
      P (bufferPoolSizeRecalc env pool_id size is_add db).2)
    (old_pool_id new_pool_id) (old_size new_size tmp_size : BitVec 32) (is_add : Bool) (h : P db) :
    P (objBufferProfileRecalc env old_pool_id new_pool_id old_size new_size tmp_size is_add db) := by
  simp only [objBufferProfileRecalc]
  split
  · exact hrecalc old_pool_id tmp_size is_add db h
  have hleft : P (if old_pool_id ≠ .null then
      (bufferPoolSizeRecalc env old_pool_id old_size false db).2 else db) := by
    split
    · exact hrecalc old_pool_id old_size false db h
    · exact h
  split
  · exact hrecalc new_pool_id new_size true _ hleft
  · exact hleft

end Keeps

/-! ## Pools -/

theorem updateBufferPoolNode_kept (attr_list) : ∀ attr_idx xoff_idx pool,
    (updateBufferPoolNode attr_idx xoff_idx attr_list pool).2.shared_size = pool.shared_size ∧
    (updateBufferPoolNode attr_idx xoff_idx attr_list pool).2.num_ref = pool.num_ref ∧
    (updateBufferPoolNode attr_idx xoff_idx attr_list pool).2.buffer_profiles =
      pool.buffer_profiles := by
  induction attr_list with
  | nil =>
    intro attr_idx xoff_idx pool
    cases xoff_idx <;> exact ⟨rfl, rfl, rfl⟩
  | cons attr attr_list ih =>
    intro attr_idx xoff_idx pool
    cases attr with
    | type | size | xoffSize | thresholdMode | wredProfileId =>
      simp only [updateBufferPoolNode]
      exact ih _ _ _
    | sharedSize | unknown => simp [updateBufferPoolNode]

/-- The shared size of a pool that is valid, and the room that it has. -/
structure SharedSizeOf (old_pool : Option BufferPool) (pool valid : BufferPool) : Prop where
  xoff : pool.xoff_size ≤ pool.size
  shared : valid = { pool with
    shared_size := pool.shared_size + pool.size - old_pool.elim 0 BufferPool.size -
      pool.xoff_size + old_pool.elim 0 BufferPool.xoff_size }
  room : 0 ≤ valid.shared_size.toInt

theorem validateSharedBufferPoolSize_ok {old_pool} {pool}
    (h : (validateSharedBufferPoolSize old_pool pool).1 = .success) :
    SharedSizeOf old_pool pool (validateSharedBufferPoolSize old_pool pool).2 := by
  simp only [validateSharedBufferPoolSize] at h ⊢
  split at h
  · cases h
  rename_i htype
  rw [if_neg htype]
  split at h
  · cases h
  rename_i hxoff
  rw [if_neg hxoff]
  split at h
  · cases h
  rename_i hroom
  rw [if_neg hroom]
  exact ⟨BitVec.not_lt.mp hxoff, rfl, Int.not_lt.mp hroom⟩

theorem PlainSame.insertPoolNode (h : TreesSame db db') (pool_id) (pool) :
    PlainSame (insertPoolNode pool_id pool db) (insertPoolNode pool_id pool db') := by
  refine .of_trees ⟨h.wreds, ?_, h.profiles, h.profile_tree, h.ports, h.queues, h.pgs, h.port_pools,
    h.port_pool_of⟩
  show (fun o => if o = pool_id then _ else db'.pools o) = _
  rw [h.pools]
  rfl

theorem createBufferPoolWred_cases (env) (pool_id wred_id) (db) :
    let x := createBufferPoolWred env pool_id wred_id db
    (x.1 = .success ∧ PlainSame db x.2) ∨
    (x.1 ≠ .success ∧ PlainSame (removePoolNode pool_id db) x.2) := by
  intro x
  have hx : createBufferPoolWred env pool_id wred_id db = x := rfl
  clear_value x
  simp only [createBufferPoolWred] at hx
  have hlinked := PlainSame.wredLinkSet env pool_id wred_id db
  generalize wredLinkSet _ _ _ _ _ = linked at hx hlinked
  split at hx
  · subst hx
    exact .inl ⟨rfl, .of_trees (.refl db)⟩
  split at hx
  next hfail =>
    subst hx
    refine .inr ⟨hfail, PlainSame.trans ?_ (.of_trees (.call _ env _))⟩
    refine ⟨fun o => ?_, hlinked.profiles, hlinked.profile_tree, hlinked.ports, hlinked.queues,
      hlinked.pgs, hlinked.port_pools, hlinked.port_pool_of⟩
    show (if o = pool_id then none else linked.2.pools o).map _ =
      (if o = pool_id then none else db.pools o).map _
    split
    · rfl
    · exact hlinked.pools o
  · subst hx
    exact .inl ⟨rfl, hlinked.trans (.setBufferPool pool_id linked.2 fun _ => rfl)⟩

/-- **A pool that is created** is new, has no profiles and has its size to share. -/
theorem createBufferPoolLocked_cases {env} {attr_list} :
    let x := createBufferPoolLocked env attr_list db
    (x.1 ≠ .success ∧ PlainSame db x.2) ∨
    (x.1 = .success ∧ db.pools (uoidCreate .bufferPool env.hw_pool_id) = none ∧
      ∃ pool pool', SharedSizeOf none pool pool' ∧ pool.shared_size = 0 ∧ pool.num_ref = 0 ∧
        pool.buffer_profiles = [] ∧
        PlainSame (insertPoolNode (uoidCreate .bufferPool env.hw_pool_id)
          { pool' with wred_id := .null } db) x.2) := by
  intro x
  have hx : createBufferPoolLocked env attr_list db = x := rfl
  clear_value x
  have hrefl : PlainSame db db := .of_trees (.refl db)
  simp only [createBufferPoolLocked] at hx
  obtain ⟨hshared, hnum, hlist⟩ := updateBufferPoolNode_kept attr_list 0 none bufferPoolInit
  generalize updateBufferPoolNode 0 _ _ _ = updated at hx hshared hnum hlist
  have hvalid := @validateSharedBufferPoolSize_ok none updated.2
  generalize validateSharedBufferPoolSize _ _ = valid at hx hvalid
  split at hx
  next hfail =>
    subst hx
    exact .inl ⟨hfail, hrefl⟩
  split at hx
  · subst hx
    exact .inl ⟨by simp, hrefl⟩
  split at hx
  next hfail =>
    subst hx
    exact .inl ⟨hfail, hrefl⟩
  rename_i hvalidok
  generalize hcreated : db.call _ _ = created at hx
  have hcreatedt : TreesSame db created.2 := by
    rw [← hcreated]
    exact .call db env _
  split at hx
  next hfail =>
    subst hx
    exact .inl ⟨hfail, .of_trees hcreatedt⟩
  generalize uoidCreate _ _ = pool_id at hx ⊢
  generalize hinserted : created.2.call _ _ = inserted at hx
  have hinsertedt : TreesSame db inserted.2 := by
    rw [← hinserted]
    exact hcreatedt.trans (.call _ env _)
  split at hx
  · subst hx
    exact .inl ⟨by simp, .of_trees (hinsertedt.trans (.call _ env _))⟩
  rename_i hnew
  have hnone : db.pools pool_id = none := by
    have hno := (not_or.mp hnew).2
    rw [hcreatedt.pools] at hno
    exact Option.not_isSome_iff_eq_none.mp hno
  have hput := PlainSame.insertPoolNode hinsertedt pool_id { valid.2 with wred_id := .null }
  rcases createBufferPoolWred_cases env pool_id valid.2.wred_id
    (insertPoolNode pool_id { valid.2 with wred_id := .null } inserted.2) with ⟨hok, hsame⟩ | ⟨hfail, hsame⟩
  · rw [hx] at hok hsame
    refine .inr ⟨hok, hnone, updated.2, valid.2, hvalid (not_not.mp hvalidok), hshared, hnum, hlist, ?_⟩
    exact hput.trans hsame
  · rw [hx] at hfail hsame
    refine .inl ⟨hfail, PlainSame.trans ?_ hsame⟩
    -- the pool was not there before
    refine ⟨fun o => ?_, hput.profiles, hput.profile_tree, hput.ports, hput.queues, hput.pgs,
      hput.port_pools, hput.port_pool_of⟩
    show (if o = pool_id then none else if o = pool_id then _ else inserted.2.pools o).map _ = _
    by_cases ho : o = pool_id
    · rw [if_pos ho, ho, hnone]
    · rw [if_neg ho, if_neg ho, hinsertedt.pools]

theorem createBufferPool_cases {env} {attr_list} :
    let x := createBufferPool env attr_list db
    (x.1 ≠ .success ∧ PlainSame db x.2) ∨
    (x.1 = .success ∧ db.pools (uoidCreate .bufferPool env.hw_pool_id) = none ∧
      ∃ pool pool', SharedSizeOf none pool pool' ∧ pool.shared_size = 0 ∧ pool.num_ref = 0 ∧
        pool.buffer_profiles = [] ∧
        PlainSame (insertPoolNode (uoidCreate .bufferPool env.hw_pool_id)
          { pool' with wred_id := .null } db) x.2) := by
  intro x
  have hx : createBufferPool env attr_list db = x := rfl
  clear_value x
  simp only [createBufferPool] at hx
  split at hx
  next hfail =>
    subst hx
    exact .inl ⟨hfail, .of_trees (.refl db)⟩
  rcases createBufferPoolLocked_cases with
    ⟨hfail, hsame⟩ | ⟨hok, hnone, pool, pool', hshared, hzero, hnum, hlist, hsame⟩
  · subst hx
    exact .inl ⟨hfail, ((PlainSame.of_trees (.lock db)).trans hsame).trans (.of_trees (.unlock _))⟩
  · subst hx
    refine .inr ⟨hok, hnone, pool, pool', hshared, hzero, hnum, hlist, ?_⟩
    exact ((PlainSame.insertPoolNode (.lock db) _ _).trans hsame).trans (.of_trees (.unlock _))

theorem removeBufferPool_cases {env} {pool_id} :
    let x := removeBufferPool env pool_id db
    (x.1 = .success ↔ ∃ pool, db.pools pool_id = some pool ∧ pool.num_ref = 0 ∧
      env.outside db.outside_log (.poolRemove pool_id) = .success) ∧
    ((x.1 ≠ .success ∧ TreesSame db x.2) ∨
      (x.1 = .success ∧ TreesSame (removePoolNode pool_id db) x.2)) := by
  intro x
  have hx : removeBufferPool env pool_id db = x := rfl
  clear_value x
  simp only [removeBufferPool, removeBufferPoolLocked] at hx
  split at hx
  next hnone =>
    subst hx
    refine ⟨iff_of_false (by simp) ?_, .inl ⟨by simp, (TreesSame.lock db).trans (.unlock _)⟩⟩
    rintro ⟨pool, hpool, -⟩
    exact absurd (hnone.symm.trans hpool) (by simp)
  rename_i pool hpool
  split at hx
  next hnum =>
    subst hx
    refine ⟨iff_of_false (by simp) ?_, .inl ⟨by simp, (TreesSame.lock db).trans (.unlock _)⟩⟩
    rintro ⟨pool', hpool', hnum', -⟩
    obtain rfl := Option.some.inj (hpool'.symm.trans hpool)
    exact hnum hnum'
  rename_i hnum
  have htrees : TreesSame db (db.lock.access.call env (.poolRemove pool_id)).2 :=
    (TreesSame.lock db).trans (.call _ env _)
  have hanswer : (db.lock.access.call env (.poolRemove pool_id)).1 =
      env.outside db.outside_log (.poolRemove pool_id) := rfl
  generalize db.lock.access.call _ _ = removed at hx htrees hanswer
  split at hx
  next hfail =>
    subst hx
    refine ⟨iff_of_false hfail ?_, .inl ⟨hfail, htrees.trans (.unlock _)⟩⟩
    rintro ⟨pool', -, -, hok⟩
    exact hfail (hanswer.trans hok)
  rename_i hok
  subst hx
  refine ⟨iff_of_true rfl ⟨pool, hpool, not_not.mp hnum, hanswer.symm.trans (not_not.mp hok)⟩,
    .inr ⟨rfl, TreesSame.trans ?_ (.unlock _)⟩⟩
  refine ⟨htrees.wreds, ?_, htrees.profiles, htrees.profile_tree, htrees.ports, htrees.queues,
    htrees.pgs, htrees.port_pools, htrees.port_pool_of⟩
  show (fun o => if o = pool_id then none else removed.2.pools o) = _
  rw [htrees.pools]
  rfl

/-- **A pool that is set** changes its size, or no more than its WRED. -/
theorem bufferPoolAttrSet_cases (env) (pool_id) (attr) (db) :
    let x := bufferPoolAttrSet env pool_id attr db
    (PlainSame db x.2 ∧ (x.1 = .success → ∀ u32, attr ≠ .size u32)) ∨
    (x.1 = .success ∧ ∃ pool pool' u32, attr = .size u32 ∧ db.pools pool_id = some pool ∧
      SharedSizeOf (some pool) { pool with size := u32 } pool' ∧
      TreesSame (setBufferPool pool_id (fun _ => pool') db) x.2) := by
  intro x
  have hx : bufferPoolAttrSet env pool_id attr db = x := rfl
  clear_value x
  simp only [bufferPoolAttrSet] at hx
  split at hx
  next hfail =>
    subst hx
    exact .inl ⟨.of_trees (.refl db), fun hok => absurd hok hfail⟩
  have hkept : ∀ y : Status × QosDb, PlainSame db.lock.access y.2 → PlainSame db (y.1, y.2.unlock).2 :=
    fun y hy => ((PlainSame.of_trees (.lock db)).trans hy).trans (.of_trees (.unlock _))
  have hrefl : PlainSame db.lock.access db.lock.access := .of_trees (.refl _)
  generalize hset : bufferPoolAttrSetLocked _ _ _ _ = set at hx
  subst hx
  simp only [bufferPoolAttrSetLocked] at hset
  split at hset
  · subst hset
    exact .inl ⟨hkept _ hrefl, fun hok => absurd hok (by simp)⟩
  rename_i pool hpool
  split at hset
  next hfail =>
    subst hset
    exact .inl ⟨hkept _ hrefl, fun hok => absurd hok hfail⟩
  cases attr with
  | xoffSize u32 =>
    refine .inl ⟨?_, fun _ _ => by simp⟩
    simp only at hset
    split at hset
    · subst hset
      exact hkept _ hrefl
    · subst hset
      exact hkept _ (.of_trees (.call _ env _))
  | size u32 =>
    simp only at hset
    have hvalid := @validateSharedBufferPoolSize_ok (some pool) { pool with size := u32 }
    rw [show (updateBufferPoolNode 0 none [.size u32] pool).2 = { pool with size := u32 } from rfl]
      at hset
    generalize validateSharedBufferPoolSize _ _ = valid at hset hvalid
    split at hset
    next hfail =>
      subst hset
      exact .inl ⟨hkept _ hrefl, fun hok => absurd hok hfail⟩
    rename_i hok
    have htrees : TreesSame db (db.lock.access.call env (.poolAttrSet pool_id (.size u32))).2 :=
      (TreesSame.lock db).trans (.call _ env _)
    generalize db.lock.access.call _ _ = called at hset htrees
    split at hset
    next hfail =>
      subst hset
      exact .inl ⟨(PlainSame.of_trees htrees).trans (.of_trees (.unlock _)),
        fun hok => absurd hok hfail⟩
    subst hset
    refine .inr ⟨rfl, pool, valid.2, u32, rfl, hpool, hvalid (not_not.mp hok), ?_⟩
    refine TreesSame.trans ?_ (.unlock _)
    refine ⟨htrees.wreds, ?_, htrees.profiles, htrees.profile_tree, htrees.ports, htrees.queues,
      htrees.pgs, htrees.port_pools, htrees.port_pool_of⟩
    show (fun o => if o = pool_id then (called.2.pools o).map _ else called.2.pools o) = _
    rw [htrees.pools]
    rfl
  | wredProfileId oid =>
    refine .inl ⟨?_, fun _ _ => by simp⟩
    simp only at hset
    split at hset
    · subst hset
      exact hkept _ hrefl
    split at hset
    · subst hset
      exact hkept _ hrefl
    · subst hset
      exact hkept _ (.wredLinkSet env _ _ _)
  | _ =>
    simp only at hset
    subst hset
    exact .inl ⟨hkept _ hrefl, fun _ _ => by simp⟩

theorem bufferPoolAttrGet_trees (attr_list)
    (db) : TreesSame db (bufferPoolAttrGet env pool_id attr_list db).2 := by
  have hlock : TreesSame db db.lock.access := .lock db
  simp only [bufferPoolAttrGet]
  split
  · exact .refl db
  split
  · exact hlock.trans (.unlock _)
  split
  · exact (hlock.trans (.call _ env _)).trans (.unlock _)
  · exact hlock.trans (.unlock _)

/-! ## Profiles -/

theorem bufferProfileAttributesValidate_trees (attr_list)
    (op_type) (db) :
    TreesSame db (bufferProfileAttributesValidate env attr_list op_type db).2 ∧
    (bufferProfileAttributesValidate env attr_list op_type db).2.outside_log = db.outside_log := by
  simp only [bufferProfileAttributesValidate]
  split
  · exact ⟨.refl db, rfl⟩
  split
  · exact ⟨.refl db, rfl⟩
  split
  · by_cases hnames : namesPool attr_list = true
    · rw [if_pos hnames]
      split <;> exact ⟨.access db, rfl⟩
    · rw [if_neg hnames]
      split <;> exact ⟨.refl db, rfl⟩
  · exact ⟨.refl db, rfl⟩

variable (ptr : Nat) (old_attr attr : ProfileAttr) (ids : List ProfileAttrId)

structure ProfileStart (db start : QosDb) : Prop where
  wreds : start.wreds = db.wreds
  pools : start.pools = db.pools
  profiles : start.profiles = db.profiles.alloc bufferProfileInit
  profile_tree : start.profile_tree = db.profile_tree
  ports : start.ports = db.ports
  queues : start.queues = db.queues
  pgs : start.pgs = db.pgs
  port_pools : start.port_pools = db.port_pools
  port_pool_of : start.port_pool_of = db.port_pool_of
  log : start.outside_log = db.outside_log

def insertProfileNode (ptr : Nat) (profile_id : Oid) (db : QosDb) : QosDb :=
  { setBufferProfile ptr (fun profile => { profile with profile_id := profile_id }) db with
    profile_tree := fun o => if o = profile_id then some ptr else db.profile_tree o }

def ProfileCreateTaken (profile : BufferProfile) (db : QosDb) : Prop :=
  let profile_id := uoidCreate .bufferProfile env.hw_profile_id
  env.outside db.outside_log (.profileCreate profile) = .success ∧
  env.outside (db.outside_log ++ [(.profileCreate profile, .success)]) (.profileInsert profile_id) =
    .success ∧
  db.profile_tree profile_id = none

theorem updateBufferProfileNode_tree (attr_list) : ∀ attr_idx db,
    (updateBufferProfileNode ptr attr_idx attr_list db).2.profile_tree = db.profile_tree ∧
    (updateBufferProfileNode ptr attr_idx attr_list db).2.outside_log = db.outside_log := by
  induction attr_list with
  | nil => exact fun _ _ => ⟨rfl, rfl⟩
  | cons attr attr_list ih =>
    intro attr_idx db
    cases attr with
    | poolId oid =>
      simp only [updateBufferProfileNode]
      split
      · exact ⟨rfl, rfl⟩
      have hmove : (moveBufferPool ptr oid db).profile_tree = db.profile_tree ∧
          (moveBufferPool ptr oid db).outside_log = db.outside_log := by
        simp only [moveBufferPool]
        split <;> exact ⟨rfl, rfl⟩
      obtain ⟨htree, hlog⟩ := ih (attr_idx + 1) (moveBufferPool ptr oid db)
      exact ⟨htree.trans hmove.1, hlog.trans hmove.2⟩
    | bufferSize | thresholdMode | sharedDynamicTh | sharedStaticTh | xoffTh | xonTh =>
      exact ih (attr_idx + 1) _
    | unknown id => exact ⟨rfl, rfl⟩

/-- **A create of a profile** that fails after its check leaves what the parse did, with the node given
back. -/
theorem createBufferProfile_cases (env) (attr_list) (db) :
    let x := createBufferProfile env attr_list db
    let ptr := db.profiles.next
    (x.1 ≠ .success ∧ TreesSame db x.2 ∧
      (bufferProfileAttributesValidate env attr_list .create db).1 ≠ .success) ∨
    ((bufferProfileAttributesValidate env attr_list .create db).1 = .success ∧
      ∃ start, ProfileStart db start ∧
        let updated := updateBufferProfileNode ptr 0 attr_list start
        let taken := updated.1 = .success ∧
          ProfileCreateTaken env ((updated.2.profiles.get ptr).getD bufferProfileInit) db
        (x.1 ≠ .success ∧ ¬ taken ∧ TreesSame (freeBufferProfile ptr updated.2) x.2) ∨
        (x.1 = .success ∧ taken ∧
          TreesSame (insertProfileNode ptr (uoidCreate .bufferProfile env.hw_profile_id) updated.2)
            x.2)) := by
  intro x ptr
  have hx : createBufferProfile env attr_list db = x := rfl
  clear_value x
  simp only [createBufferProfile] at hx
  obtain ⟨hvalidt, hvalidlog⟩ := bufferProfileAttributesValidate_trees env attr_list .create db
  generalize bufferProfileAttributesValidate _ _ _ _ = valid at hx hvalidt hvalidlog ⊢
  split at hx
  next hfail =>
    subst hx
    exact .inl ⟨hfail, hvalidt, hfail⟩
  rename_i hvalidok
  have hptr : valid.2.profiles.next = ptr := congrArg Heap.next hvalidt.profiles
  rw [hptr] at hx
  generalize hstart : { valid.2 with profiles := valid.2.profiles.alloc bufferProfileInit }.lock.access
    = start at hx
  have hprofstart : ProfileStart db start := by
    rw [← hstart]
    refine ⟨hvalidt.wreds, hvalidt.pools, ?_, hvalidt.profile_tree, hvalidt.ports, hvalidt.queues,
      hvalidt.pgs, hvalidt.port_pools, hvalidt.port_pool_of, hvalidlog⟩
    show valid.2.profiles.alloc _ = _
    rw [hvalidt.profiles]
  refine .inr ⟨not_not.mp hvalidok, start, hprofstart, ?_⟩
  obtain ⟨htree, hlog⟩ := updateBufferProfileNode_tree ptr attr_list 0 start
  rw [hprofstart.profile_tree] at htree
  rw [hprofstart.log] at hlog
  simp only [createBufferProfileLocked] at hx
  simp only
  generalize updateBufferProfileNode _ 0 _ _ = updated at hx htree hlog ⊢
  split at hx
  next hfail =>
    subst hx
    exact .inl ⟨hfail, fun htaken => hfail htaken.1, .unlock _⟩
  rename_i hupdated
  unfold ProfileCreateTaken
  generalize (updated.2.profiles.get ptr).getD _ = profile at hx ⊢
  have hcreatedt : TreesSame updated.2 (updated.2.call env (.profileCreate profile)).2 :=
    .call _ env _
  have hcreatedlog := call_outside_log updated.2 env (.profileCreate profile)
  have hcreated : (updated.2.call env (.profileCreate profile)).1 =
      env.outside db.outside_log (.profileCreate profile) := by
    rw [← hlog]
    rfl
  rw [hcreated, hlog] at hcreatedlog
  generalize updated.2.call _ _ = created at hx hcreatedt hcreatedlog hcreated
  -- a node that is given back may have its id or not
  have hfree : ∀ db', TreesSame (setBufferProfile ptr (fun profile =>
      { profile with profile_id := uoidCreate .bufferProfile env.hw_profile_id }) created.2) db' →
      TreesSame (freeBufferProfile ptr updated.2) (freeBufferProfile ptr db') := by
    intro db' h
    refine ⟨h.wreds.trans hcreatedt.wreds, h.pools.trans hcreatedt.pools, ?_,
      h.profile_tree.trans hcreatedt.profile_tree, h.ports.trans hcreatedt.ports,
      h.queues.trans hcreatedt.queues, h.pgs.trans hcreatedt.pgs,
      h.port_pools.trans hcreatedt.port_pools, h.port_pool_of.trans hcreatedt.port_pool_of⟩
    show db'.profiles.free ptr = updated.2.profiles.free ptr
    rw [h.profiles]
    show (created.2.profiles.modify ptr _).free ptr = _
    rw [hcreatedt.profiles]
    refine Heap.ext (fun q => ?_) rfl rfl
    by_cases hq : q = ptr
    · rw [hq, Heap.get_free_self, Heap.get_free_self]
    · rw [Heap.get_free_of_ne _ hq, Heap.get_free_of_ne _ hq, Heap.get_modify_of_ne _ _ hq]
  split at hx
  next hfail =>
    subst hx
    refine .inl ⟨hfail, fun htaken => hfail (hcreated.trans htaken.2.1), TreesSame.trans ?_ (.unlock _)⟩
    refine ⟨hcreatedt.wreds, hcreatedt.pools, ?_, hcreatedt.profile_tree, hcreatedt.ports,
      hcreatedt.queues, hcreatedt.pgs, hcreatedt.port_pools, hcreatedt.port_pool_of⟩
    show created.2.profiles.free ptr = updated.2.profiles.free ptr
    rw [hcreatedt.profiles]
  rename_i hcreatedok
  have hok : env.outside db.outside_log (.profileCreate profile) = .success :=
    hcreated.symm.trans (not_not.mp hcreatedok)
  rw [hok] at hcreatedlog
  generalize uoidCreate _ _ = profile_id at hx hfree ⊢
  have hinsertedt := TreesSame.call (setBufferProfile ptr (fun profile =>
    { profile with profile_id := profile_id }) created.2) env (.profileInsert profile_id)
  have hinserted : ((setBufferProfile ptr (fun profile => { profile with profile_id := profile_id })
      created.2).call env (.profileInsert profile_id)).1 =
      env.outside (db.outside_log ++ [(.profileCreate profile, .success)]) (.profileInsert profile_id) := by
    rw [← hcreatedlog]
    rfl
  generalize (setBufferProfile ptr (fun profile => { profile with profile_id := profile_id })
      created.2).call _ _ = inserted
    at hx hinsertedt hinserted
  have htreeeq : created.2.profile_tree = db.profile_tree := hcreatedt.profile_tree.trans htree
  split at hx
  next hfail =>
    subst hx
    refine .inl ⟨by simp, fun htaken => ?_, TreesSame.trans ?_ (.unlock _)⟩
    · rcases hfail with hfail | hin
      · exact hfail (hinserted.trans htaken.2.2.1)
      · rw [htreeeq, htaken.2.2.2] at hin
        cases hin
    · exact hfree _ (hinsertedt.trans (.call _ env _))
  next hnew =>
    obtain ⟨hins, hnone⟩ := not_or.mp hnew
    rw [htreeeq] at hnone
    subst hx
    refine .inr ⟨rfl, ⟨not_not.mp hupdated, hok, hinserted.symm.trans (not_not.mp hins),
      Option.not_isSome_iff_eq_none.mp hnone⟩, TreesSame.trans ?_ (.unlock _)⟩
    refine ⟨hinsertedt.wreds.trans hcreatedt.wreds, hinsertedt.pools.trans hcreatedt.pools, ?_, ?_,
      hinsertedt.ports.trans hcreatedt.ports, hinsertedt.queues.trans hcreatedt.queues,
      hinsertedt.pgs.trans hcreatedt.pgs, hinsertedt.port_pools.trans hcreatedt.port_pools,
      hinsertedt.port_pool_of.trans hcreatedt.port_pool_of⟩
    · refine hinsertedt.profiles.trans ?_
      show created.2.profiles.modify ptr _ = updated.2.profiles.modify ptr _
      rw [hcreatedt.profiles]
    · show (fun o => if o = profile_id then some ptr else inserted.2.profile_tree o) = _
      rw [show inserted.2.profile_tree = updated.2.profile_tree from
        hinsertedt.profile_tree.trans hcreatedt.profile_tree]
      rfl

theorem removeBufferProfile_cases {env} {profile_id} :
    let x := removeBufferProfile env profile_id db
    (x.1 = .success ↔ ∃ profile, db.profileNodeGet profile_id = some profile ∧ profile.num_ref = 0 ∧
      env.outside db.outside_log (.profileRemove profile_id) = .success) ∧
    ((x.1 ≠ .success ∧ TreesSame db x.2) ∨
      (x.1 = .success ∧ ∃ ptr profile db', db.profile_tree profile_id = some ptr ∧
        db.profiles.get ptr = some profile ∧ profile.num_ref = 0 ∧ TreesSame db db' ∧
        TreesSame (freeBufferProfile ptr (bufferProfileNodeRemoveFromTree ptr profile db')) x.2)) := by
  intro x
  have hx : removeBufferProfile env profile_id db = x := rfl
  clear_value x
  have hget : ∀ profile, db.profileNodeGet profile_id = some profile ↔
      ∃ ptr, db.profile_tree profile_id = some ptr ∧ db.profiles.get ptr = some profile :=
    fun profile => Option.bind_eq_some_iff
  simp only [removeBufferProfile, removeBufferProfileLocked] at hx
  split at hx
  next ptr profile hptr hprofile =>
    have hprofile' : db.profileNodeGet profile_id = some profile := hprofile
    obtain ⟨ptr', hptr', hnode⟩ := (hget profile).mp hprofile'
    obtain rfl := Option.some.inj (hptr'.symm.trans hptr)
    split at hx
    next hnum =>
      subst hx
      refine ⟨iff_of_false (by simp) ?_, .inl ⟨by simp, (TreesSame.lock db).trans (.unlock _)⟩⟩
      rintro ⟨profile', hprof, hnum', -⟩
      obtain rfl := Option.some.inj (hprof.symm.trans hprofile')
      exact hnum hnum'
    rename_i hnum
    have htrees : TreesSame db (db.lock.access.call env (.profileRemove profile_id)).2 :=
      (TreesSame.lock db).trans (.call _ env _)
    have hanswer : (db.lock.access.call env (.profileRemove profile_id)).1 =
        env.outside db.outside_log (.profileRemove profile_id) := rfl
    generalize db.lock.access.call _ _ = removed at hx htrees hanswer
    split at hx
    next hfail =>
      subst hx
      refine ⟨iff_of_false hfail ?_, .inl ⟨hfail, htrees.trans (.unlock _)⟩⟩
      rintro ⟨profile', -, -, hok⟩
      exact hfail (hanswer.trans hok)
    rename_i hok
    subst hx
    exact ⟨iff_of_true rfl ⟨profile, hprofile', not_not.mp hnum,
        hanswer.symm.trans (not_not.mp hok)⟩,
      .inr ⟨rfl, ptr', profile, removed.2, hptr', hnode, not_not.mp hnum, htrees, .unlock _⟩⟩
  next hno =>
    subst hx
    refine ⟨iff_of_false (by simp) ?_, .inl ⟨by simp, (TreesSame.lock db).trans (.unlock _)⟩⟩
    rintro ⟨profile, hprofile, -⟩
    obtain ⟨ptr, hptr, -⟩ := (hget profile).mp hprofile
    exact hno ptr profile hptr hprofile

/-! ## A new value -/

theorem updateBufferProfileUsers_nodes (back : Bool) (users) : ∀ stop db,
    NodesSame db (updateBufferProfileUsers env profile_id old_attr attr back users stop db).2.2 := by
  induction users with
  | nil => exact fun _ db => .refl db
  | cons user users ih =>
    intro stop db
    simp only [updateBufferProfileUsers]
    split
    · exact .refl db
    have hcall := NodesSame.call db env (.profileAttrSet user profile_id old_attr attr back)
    split
    · exact hcall
    · exact hcall.trans (ih stop _)

theorem updateBufferProfilePortsQueues_nodes (at_) :
    NodesSame at_.db (updateBufferProfilePortsQueues env profile old_attr attr at_).db := by
  simp only [updateBufferProfilePortsQueues]
  split
  · exact .refl at_.db
  have hports := updateBufferProfileUsers_nodes env profile.profile_id old_attr attr false
    profile.ports at_.port_id at_.db
  split
  · exact hports
  · exact hports.trans (updateBufferProfileUsers_nodes env profile.profile_id old_attr attr false
      profile.queues at_.queue_id _)

theorem updateBufferProfileBack_nodes {at_} :
    NodesSame at_.db (updateBufferProfileBack env profile old_attr attr at_) := by
  have hif : ∀ (b : Bool) users stop db, NodesSame db (if b = true then
      (updateBufferProfileUsers env profile.profile_id attr old_attr true users stop db).2.2 else db) := by
    intro b users stop db
    split
    · exact updateBufferProfileUsers_nodes env _ _ _ _ _ _ db
    · exact .refl db
  exact ((hif at_.port_update profile.ports at_.port_id at_.db).trans
    (hif at_.queue_update profile.queues at_.queue_id _)).trans
    (hif at_.pg_update profile.pgs at_.pg_id _)

theorem updateBufferProfileNode_failed (h : (updateBufferProfileNode ptr 0 [attr] db).1 ≠ .success) :
    (updateBufferProfileNode ptr 0 [attr] db).2 = db := by
  cases attr with
  | poolId oid =>
    simp only [updateBufferProfileNode] at h ⊢
    split
    · rfl
    rename_i hlive
    rw [if_neg hlive] at h
    exact absurd rfl h
  | bufferSize | thresholdMode | sharedDynamicTh | sharedStaticTh | xoffTh | xonTh =>
    exact absurd rfl h
  | unknown id => rfl

/-- **The users take a new value**, and then the profile stores it; or all is as it was. -/
theorem updateBufferProfileObjects_cases (env) (ptr : Nat) (profile)
    (old_attr attr) (db) :
    let x := updateBufferProfileObjects env ptr profile old_attr attr db
    (x.1 ≠ .success ∧ NodesSame db x.2) ∨
    (x.1 = .success ∧ ∃ db', NodesSame db db' ∧
      (updateBufferProfileNode ptr 0 [attr] db').1 = .success ∧
      x.2 = (updateBufferProfileNode ptr 0 [attr] db').2) := by
  have hforward : let at_ := updateBufferProfileForward env ptr profile old_attr attr db
      (at_.rc ≠ .success ∧ NodesSame db at_.db) ∨
      (at_.rc = .success ∧ ∃ db', NodesSame db db' ∧
        (updateBufferProfileNode ptr 0 [attr] db').1 = .success ∧
        at_.db = (updateBufferProfileNode ptr 0 [attr] db').2) := by
    have hstored : ∀ db', NodesSame db db' →
        ((updateBufferProfileNode ptr 0 [attr] db').1 ≠ .success ∧
          NodesSame db (updateBufferProfileNode ptr 0 [attr] db').2) ∨
        ((updateBufferProfileNode ptr 0 [attr] db').1 = .success ∧ ∃ db'', NodesSame db db'' ∧
          (updateBufferProfileNode ptr 0 [attr] db'').1 = .success ∧
          (updateBufferProfileNode ptr 0 [attr] db').2 =
            (updateBufferProfileNode ptr 0 [attr] db'').2) := by
      intro db' hsame
      by_cases hok : (updateBufferProfileNode ptr 0 [attr] db').1 = .success
      · exact .inr ⟨hok, db', hsame, hok, rfl⟩
      · rw [updateBufferProfileNode_failed ptr _ hok]
        exact .inl ⟨hok, hsame⟩
    intro at_
    have hat : updateBufferProfileForward env ptr profile old_attr attr db = at_ := rfl
    clear_value at_
    simp only [updateBufferProfileForward] at hat
    split at hat
    · subst hat
      exact hstored db (.refl db)
    have hfirst := updateBufferProfilePortsQueues_nodes env profile old_attr attr
      ⟨.success, .null, .null, .null, false, false, false, db⟩
    generalize updateBufferProfilePortsQueues _ _ _ _ _ = first at hat hfirst
    split at hat
    next hfail =>
      subst hat
      exact .inl ⟨hfail, hfirst⟩
    have hpgs := hfirst.trans (updateBufferProfileUsers_nodes env profile.profile_id old_attr attr
      false profile.pgs first.pg_id _)
    split at hat
    next hfail =>
      subst hat
      exact .inl ⟨hfail, hpgs⟩
    · subst hat
      exact hstored _ hpgs
  intro x
  have hx : updateBufferProfileObjects env ptr profile old_attr attr db = x := rfl
  clear_value x
  simp only [updateBufferProfileObjects] at hx
  generalize updateBufferProfileForward _ _ _ _ _ _ = at_ at hx hforward
  rcases hforward with ⟨hfail, hsame⟩ | ⟨hok, db', hsame, hnode, hdb⟩
  · rw [if_pos hfail] at hx
    subst hx
    exact .inl ⟨hfail, hsame.trans (updateBufferProfileBack_nodes env _ _ _)⟩
  rw [if_ok hok] at hx
  subst hx
  exact .inr ⟨hok, db', hsame, hnode, hdb⟩

theorem readBufferProfileNode_error {profile} {attr_idx : Nat} {id}
    (h : readBufferProfileNode db profile attr_idx [id] = .error rc) : rc ≠ .success := by
  cases id with
  | thresholdMode =>
    simp only [readBufferProfileNode] at h
    split at h
    · cases h
    split at h
    · cases h
      simp
    · cases h
  | unknown id =>
    simp only [readBufferProfileNode] at h
    cases h
    simp
  | _ => cases h

theorem checkBufferSize_error {env} {attr} {profile}
    (h : (checkBufferSize env attr profile db).1 = .error rc) :
    rc ≠ .success := by
  have hgrowth : ∀ u32, (checkBufferGrowth env profile u32 db).1 = .error rc → rc ≠ .success := by
    intro u32 hrc
    simp only [checkBufferGrowth] at hrc
    split at hrc
    · cases hrc
      simp
    split at hrc
    · cases hrc
      simp
    · cases hrc
  cases attr with
  | poolId oid =>
    simp only [checkBufferSize] at h
    split at h
    · cases h
      simp
    · cases h
  | bufferSize u32 =>
    simp only [checkBufferSize] at h
    split at h
    · exact hgrowth _ h
    · cases h
  | xoffTh u32 =>
    simp only [checkBufferSize] at h
    split at h
    · cases h
    split at h
    · exact hgrowth _ h
    · cases h
  | _ => cases h

theorem checkBufferSize_trees (profile)
    (db) : TreesSame db (checkBufferSize env attr profile db).2 := by
  have hgrowth : ∀ u32, TreesSame db (checkBufferGrowth env profile u32 db).2 := by
    intro u32
    simp only [checkBufferGrowth]
    split
    · exact .refl db
    split <;> exact .call db env _
  cases attr with
  | poolId oid =>
    simp only [checkBufferSize]
    split <;> exact .refl db
  | bufferSize u32 =>
    simp only [checkBufferSize]
    split
    · exact hgrowth _
    · exact .refl db
  | xoffTh u32 =>
    simp only [checkBufferSize]
    split
    · exact .refl db
    split
    · exact hgrowth _
    · exact .refl db
  | _ => exact .refl db

theorem bufferProfileAttrGetInternal_trees (db) :
    TreesSame db (bufferProfileAttrGetInternal env profile_id ids db).2 := by
  simp only [bufferProfileAttrGetInternal]
  split
  · exact .refl db
  split
  · exact .refl db
  split
  · exact (TreesSame.access db).trans (.unlock _)
  · exact .access db

theorem bufferProfileAttrGetInternal_error {env} {profile_id} {id}
    (h : (bufferProfileAttrGetInternal env profile_id [id] db).1 = .error rc) : rc ≠ .success := by
  simp only [bufferProfileAttrGetInternal] at h
  rw [if_neg (by simp)] at h
  split at h
  next hbad =>
    cases h
    exact hbad
  split at h
  · cases h
    simp
  · exact readBufferProfileNode_error h

theorem bufferProfileAttrGet_trees (db) : TreesSame db
    (bufferProfileAttrGet env profile_id ids db).2 := by
  have hlock : TreesSame db db.lock := ⟨rfl, rfl, rfl, rfl, rfl, rfl, rfl, rfl, rfl⟩
  exact (hlock.trans (bufferProfileAttrGetInternal_trees env _ ids _)).trans (.unlock _)

structure ProfileSet (env : QosEnv) (profile_id : Oid) (attr : ProfileAttr) (ptr : Nat)
    (profile : BufferProfile) (buf_size : BitVec 32) (is_add : Bool) (checked stored db db' : QosDb) :
    Prop where
  tree : db.profile_tree profile_id = some ptr
  node : db.profiles.get ptr = some profile
  start : TreesSame db checked
  value : checkBufferProfileAttrValue checked attr profile = .success
  size : (checkBufferSize env attr profile checked).1 = .ok (buf_size, is_add)
  users : TreesSame db stored
  update : (updateBufferProfileNode ptr 0 [attr] stored).1 = .success
  recalc : TreesSame (bufferProfileRecalc env attr profile.buffer_pool_id
    (((updateBufferProfileNode ptr 0 [attr] stored).2.profiles.get ptr).elim .null
      BufferProfile.buffer_pool_id) buf_size is_add (updateBufferProfileNode ptr 0 [attr] stored).2) db'

theorem bufferProfileAttrSet_cases (env) (profile_id) (attr)
    (db) :
    let x := bufferProfileAttrSet env profile_id attr db
    (x.1 ≠ .success ∧ TreesSame db x.2) ∨
    (x.1 = .success ∧ ∃ ptr profile buf_size is_add checked stored,
      ProfileSet env profile_id attr ptr profile buf_size is_add checked stored db x.2) := by
  intro x
  have hx : bufferProfileAttrSet env profile_id attr db = x := rfl
  clear_value x
  simp only [bufferProfileAttrSet] at hx
  obtain ⟨hvalid, -⟩ := bufferProfileAttributesValidate_trees env [attr] .set db
  generalize bufferProfileAttributesValidate _ _ _ _ = valid at hx hvalid
  split at hx
  next hfail =>
    subst hx
    exact .inl ⟨hfail, hvalid⟩
  have hgot : TreesSame db (bufferProfileAttrGetInternal env profile_id [attr.id] valid.2.lock).2 :=
    (hvalid.trans (show TreesSame valid.2 valid.2.lock from
      ⟨rfl, rfl, rfl, rfl, rfl, rfl, rfl, rfl, rfl⟩)).trans
      (bufferProfileAttrGetInternal_trees env profile_id [attr.id] valid.2.lock)
  have herror : ∀ rc, (bufferProfileAttrGetInternal env profile_id [attr.id] valid.2.lock).1 =
      .error rc → rc ≠ .success := fun rc hrc => bufferProfileAttrGetInternal_error hrc
  generalize bufferProfileAttrGetInternal _ _ _ _ = got at hx hgot herror
  split at hx
  next rc hrc =>
    subst hx
    exact .inl ⟨herror rc hrc, hgot.trans (.unlock _)⟩
  · subst hx
    exact .inl ⟨by simp, hgot.trans (.unlock _)⟩
  rename_i old_attr _ _
  have hstart : TreesSame db got.2.access := hgot.trans (.access _)
  generalize got.2.access = start at hx hstart
  simp only [bufferProfileAttrSetLocked] at hx
  split at hx
  swap
  · subst hx
    exact .inl ⟨by simp, hstart.trans (.unlock _)⟩
  rename_i ptr profile hptr hprofile
  rw [hstart.profile_tree] at hptr
  have hnode : db.profiles.get ptr = some profile := by
    have hprofile' : (start.profile_tree profile_id).bind start.profiles.get = some profile := hprofile
    rw [hstart.profile_tree, hptr, hstart.profiles] at hprofile'
    exact hprofile'
  split at hx
  next hfail =>
    subst hx
    exact .inl ⟨hfail, hstart.trans (.unlock _)⟩
  rename_i hvalue
  have hchecked := hstart.trans (checkBufferSize_trees env attr profile start)
  split at hx
  next rc hrc =>
    subst hx
    refine .inl ⟨checkBufferSize_error hrc, hchecked.trans (.unlock _)⟩
  rename_i buf_size is_add hsize
  rcases updateBufferProfileObjects_cases env ptr profile old_attr attr
    (checkBufferSize env attr profile start).2 with ⟨hfail, hsame⟩ | ⟨hok, stored, hsame, hnodeok, hdb⟩
  · rw [if_pos hfail] at hx
    subst hx
    exact .inl ⟨hfail, (hchecked.trans (.of_nodes hsame)).trans (.unlock _)⟩
  · rw [if_ok hok] at hx
    subst hx
    rw [hdb]
    exact .inr ⟨rfl, ptr, profile, buf_size, is_add, start, stored, hptr, hnode, hstart,
      not_not.mp hvalue, hsize, hchecked.trans (.of_nodes hsame), hnodeok, .unlock _⟩

/-! ## A new profile for a user -/

structure UserSet (env : QosEnv) (object_id profile_id old_profile_id : Oid)
    (profile old_profile : BufferProfile) (tmp_size : BitVec 32) (is_add : Bool)
    (applied db db' : QosDb) : Prop where
  old : getBufferProfileId db object_id = some old_profile_id
  ne : old_profile_id ≠ profile_id
  new : profileOrDefault db profile_id = some profile
  before : profileOrDefault db old_profile_id = some old_profile
  fits : profile_id ≠ .null → isObjectBufferProfileCompatible db object_id profile = true
  size : calcPoolSize db old_profile.buffer_pool_id profile.buffer_pool_id
    (!old_profile.profile_th_enable)
    (if old_profile_id ≠ .null then bufferProfileCharge db old_profile else 0)
    (if profile_id ≠ .null then bufferProfileCharge db profile else 0) = .ok (tmp_size, is_add)
  call : TreesSame db applied
  update : (objUpdateBufferProfileNode object_id profile_id applied).1 = .success
  recalc : TreesSame (objBufferProfileRecalc env old_profile.buffer_pool_id profile.buffer_pool_id
    (if old_profile_id ≠ .null then bufferProfileCharge db old_profile else 0)
    (if profile_id ≠ .null then bufferProfileCharge db profile else 0) tmp_size is_add
    (objUpdateBufferProfileNode object_id profile_id applied).2) db'

theorem objUpdateBufferProfileNode_failed (object_id profile_id) (db)
    (h : (objUpdateBufferProfileNode object_id profile_id db).1 ≠ .success) :
    (objUpdateBufferProfileNode object_id profile_id db).2 = db := by
  simp only [objUpdateBufferProfileNode] at h ⊢
  split
  · rfl
  rename_i hknown
  rw [if_neg hknown] at h
  split
  all_goals first | rfl | skip
  all_goals
    split
    · rfl
    · simp_all

theorem calcPoolSize_error {old_pool_id new_pool_id} {check_th : Bool} {old_size new_size : BitVec 32}
    (h : calcPoolSize db old_pool_id new_pool_id check_th old_size new_size = .error rc) :
    rc ≠ .success := by
  simp only [calcPoolSize] at h
  split at h
  next rc' hsized =>
    cases h
    split at hsized
    · split at hsized <;> cases hsized
    split at hsized
    · split at hsized
      · cases hsized
        simp
      · cases hsized
    · cases hsized
  · split at h
    · cases h
      simp
    · cases h

theorem objUpdateBufferProfile_cases (env) (object_id profile_id) (db) :
    let x := objUpdateBufferProfile env object_id profile_id db
    (x.1 ≠ .success ∧ TreesSame db x.2) ∨
    (x.1 = .success ∧ getBufferProfileId db object_id = some profile_id ∧ x.2 = db) ∨
    (x.1 = .success ∧ ∃ old_profile_id profile old_profile tmp_size is_add applied,
      UserSet env object_id profile_id old_profile_id profile old_profile tmp_size is_add applied db
        x.2) := by
  intro x
  have hx : objUpdateBufferProfile env object_id profile_id db = x := rfl
  clear_value x
  simp only [objUpdateBufferProfile] at hx
  split at hx
  · subst hx
    exact .inl ⟨by simp, .refl db⟩
  rename_i old_profile_id hold
  split at hx
  next hsame =>
    subst hx
    exact .inr (.inl ⟨rfl, hsame ▸ hold, rfl⟩)
  rename_i hne
  split at hx
  · subst hx
    exact .inl ⟨by simp, .refl db⟩
  rename_i profile hprofile
  split at hx
  · subst hx
    exact .inl ⟨by simp, .refl db⟩
  rename_i hfits
  split at hx
  · subst hx
    exact .inl ⟨by simp, .refl db⟩
  rename_i old_profile hbefore
  split at hx
  next rc hrc =>
    subst hx
    exact .inl ⟨calcPoolSize_error hrc, .refl db⟩
  rename_i tmp_size is_add hsize
  have happlied := TreesSame.call db env (.profileApply object_id old_profile profile)
  generalize db.call _ _ = applied at hx happlied
  split at hx
  next hfail =>
    subst hx
    exact .inl ⟨hfail, happlied⟩
  split at hx
  next hfail =>
    have hback := objUpdateBufferProfileNode_failed object_id profile_id applied.2 hfail
    subst hx
    refine .inl ⟨hfail, happlied.trans ?_⟩
    rw [hback]
    split
    · exact .call _ env _
    · exact .refl _
  next hok =>
    subst hx
    refine .inr (.inr ⟨rfl, old_profile_id, profile, old_profile, tmp_size, is_add, applied.2, hold,
      hne, hprofile, hbefore, ?_, hsize, happlied, not_not.mp hok, .refl _⟩)
    intro hnull
    by_contra hno
    exact hfits ⟨hnull, Bool.eq_false_iff.mpr hno⟩

end OpxSai
