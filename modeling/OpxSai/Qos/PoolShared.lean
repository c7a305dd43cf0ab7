import OpxSai.Qos.BufferCases

/-!
# The shared size of a pool

A new size of a pool, and the sizes of a new pool, are checked by a sum that wraps around at 32 bits and
is then read as an `int`. So the check goes wrong for what is left of `2 ^ 31` and more, which it
refuses, and for what is missing of more than `2 ^ 31`, which it takes.

* `poolShared_exact_iff` — when a new size and a new pool are checked exactly.
-/

variable {env : QosEnv} {db : QosDb} {pool_id : Oid} {pool : BufferPool} {u32 : BitVec 32}
  {attr_list : List PoolAttr}

namespace OpxSai

open QosDb

/-! ## Sizes -/

/-- What the pool has left once its size is a new one, or what it misses then. -/
def BufferPool.sharedAfter (pool : BufferPool) (u32 : BitVec 32) : Int :=
  u32.toNat - pool.size.toNat + pool.shared_size.toNat

/-- Only an ingress pool has an XOFF size. -/
def BufferPool.XoffTyped (pool : BufferPool) : Prop := 0 < pool.xoff_size → pool.pool_type = .ingress

structure PoolAccepts (env : QosEnv) : Prop where
  validate : ∀ op_type attr_list, env.pool_validate op_type attr_list = .success
  outside : ∀ log c, env.outside log c = .success

/-- **A new size is checked exactly**: it is taken if the pool has enough for it, and the pool keeps then
what is left. -/
def PoolSizeSetExact (env : QosEnv) (pool_id : Oid) (pool : BufferPool) (u32 : BitVec 32) (db : QosDb) :
    Prop :=
  let set := bufferPoolAttrSet env pool_id (.size u32) db
  (set.1 = .success ↔ 0 ≤ pool.sharedAfter u32) ∧
  (set.1 = .success → ∃ pool', set.2.pools pool_id = some pool' ∧
    (pool'.shared_size.toNat : Int) = pool.sharedAfter u32)

/-- **A new pool is checked exactly**: it is taken, with its size less its XOFF size. -/
def PoolCreateExact (env : QosEnv) (attr_list : List PoolAttr) (pool : BufferPool) (db : QosDb) : Prop :=
  let created := createBufferPool env attr_list db
  created.1 = .success ∧ ∃ pool', created.2.pools (uoidCreate .bufferPool env.hw_pool_id) = some pool' ∧
    pool'.shared_size.toNat = pool.size.toNat - pool.xoff_size.toNat

/-- The attributes of a new pool are read, and nothing but its sizes can be wrong with it. -/
structure PoolRequest (env : QosEnv) (attr_list : List PoolAttr) (pool : BufferPool) (db : QosDb) : Prop where
  given : attr_list ≠ []
  scan : updateBufferPoolNode 0 none attr_list bufferPoolInit = (.success, pool)
  wred : pool.wred_id = .null
  typed : pool.XoffTyped
  xoff : pool.xoff_size ≤ pool.size
  fresh : db.pools (uoidCreate .bufferPool env.hw_pool_id) = none

/-- **When a new size is checked exactly.** What is left is below `2 ^ 31`, and what is missing is not
above it or refused for the XOFF size. -/
def PoolSizeSetFits (pool : BufferPool) (u32 : BitVec 32) : Prop :=
  if 0 ≤ pool.sharedAfter u32 then pool.sharedAfter u32 < 2 ^ 31 ∧ pool.XoffTyped
  else -2 ^ 31 ≤ pool.sharedAfter u32 ∨ u32 < pool.xoff_size ∨ ¬ pool.XoffTyped

/-! ## The check -/

theorem validateSharedBufferPoolSize_success (old_pool) (pool) :
    (validateSharedBufferPoolSize old_pool pool).1 = .success ↔
      pool.XoffTyped ∧ pool.xoff_size ≤ pool.size ∧
      0 ≤ (pool.shared_size + pool.size - old_pool.elim 0 BufferPool.size - pool.xoff_size +
        old_pool.elim 0 BufferPool.xoff_size).toInt := by
  simp only [validateSharedBufferPoolSize, BufferPool.XoffTyped, ← BitVec.not_lt, ← Int.not_lt]
  by_cases htyped : 0 < pool.xoff_size ∧ pool.pool_type ≠ .ingress
  · rw [if_pos htyped]
    exact iff_of_false (by simp) fun h => htyped.2 (h.1 htyped.1)
  rw [if_neg htyped, not_and_not_right] at *
  by_cases hxoff : pool.size < pool.xoff_size
  · simp [hxoff]
  rw [if_neg hxoff]
  split <;> simp_all

/-- How the sum of the check is read, and that it is right where something is left. -/
theorem sharedAfter_toInt (hle : pool.shared_size ≤ pool.size) (u32 : BitVec 32) :
    (0 ≤ (pool.shared_size + u32 - pool.size).toInt ↔
      0 ≤ pool.sharedAfter u32 ∧ pool.sharedAfter u32 < 2 ^ 31 ∨ pool.sharedAfter u32 < -2 ^ 31) ∧
    (0 ≤ pool.sharedAfter u32 →
      ((pool.shared_size + u32 - pool.size).toNat : Int) = pool.sharedAfter u32) := by
  have hsize := pool.size.isLt
  have hu := u32.isLt
  have hle : pool.shared_size.toNat ≤ pool.size.toNat := hle
  simp only [BufferPool.sharedAfter]
  generalize hsum : pool.shared_size + u32 - pool.size = sum
  have hnat : sum.toNat = (2 ^ 32 - pool.size.toNat + (pool.shared_size.toNat + u32.toNat)) % 2 ^ 32 := by
    rw [← hsum, BitVec.toNat_sub, BitVec.toNat_add, Nat.add_mod_mod]
  rw [BitVec.toInt_eq_toNat_cond]
  split <;> omega

theorem bufferPoolAttrSet_size (hacc : PoolAccepts env) (hpool : db.pools pool_id = some pool)
    (u32 : BitVec 32) :
    let valid := validateSharedBufferPoolSize (some pool) { pool with size := u32 }
    (bufferPoolAttrSet env pool_id (.size u32) db).1 = valid.1 ∧
    (valid.1 = .success → (bufferPoolAttrSet env pool_id (.size u32) db).2.pools pool_id = some valid.2) := by
  have hcall : ((db.lock.access).call env (.poolAttrSet pool_id (.size u32))).1 = .success :=
    hacc.outside _ _
  have hpool' : db.lock.access.pools pool_id = some pool := hpool
  intro valid
  simp only [bufferPoolAttrSet, bufferPoolAttributesValidate, hacc.validate, bufferPoolAttrSetLocked, hpool',
    updateBufferPoolNode]
  by_cases hvalid : valid.1 = .success
  · refine ⟨?_, fun _ => ?_⟩
    · simp [hvalid, hcall, valid]
    · simp [hvalid, hcall, valid, setBufferPool, unlock, hpool']
  · exact ⟨by simp [hvalid, valid], fun h => absurd h hvalid⟩

theorem createBufferPool_pool (hacc : PoolAccepts env) (hreq : PoolRequest env attr_list pool db) :
    let valid := validateSharedBufferPoolSize none pool
    (createBufferPool env attr_list db).1 = valid.1 ∧
    (valid.1 = .success →
      (createBufferPool env attr_list db).2.pools (uoidCreate .bufferPool env.hw_pool_id) =
        some valid.2) := by
  intro valid
  have hwred : valid.2.wred_id = .null := by
    simp only [valid, validateSharedBufferPoolSize]
    split_ifs <;> exact hreq.wred
  have hcall : ∀ (db : QosDb) c, (db.call env c).1 = .success := fun db c => hacc.outside _ _
  have hfresh : (db.lock.access.call env (.poolCreate valid.2)).2.pools
      (uoidCreate .bufferPool env.hw_pool_id) = none := by
    simp only [QosDb.call, hacc.outside]
    exact hreq.fresh
  have hgiven : attr_list.length ≠ 0 := fun h => hreq.given (List.length_eq_zero_iff.mp h)
  simp only [createBufferPool, bufferPoolAttributesValidate, if_neg hgiven, hacc.validate,
    createBufferPoolLocked, hreq.scan, hreq.wred]
  by_cases hvalid : valid.1 = .success
  · have heq : { valid.2 with wred_id := .null } = valid.2 := by rw [← hwred]
    simp only [valid] at hvalid hwred hfresh heq ⊢
    simp [hvalid, hcall, hfresh, createBufferPoolWred, hwred, insertPoolNode, unlock, heq]
  · exact ⟨by simp [hvalid, valid], fun h => absurd h hvalid⟩

/-! ## What the check does -/

theorem poolSizeSetExact_iff (hacc : PoolAccepts env) (hpool : db.pools pool_id = some pool)
    (hroom : pool.shared_size.toNat + pool.xoff_size.toNat ≤ pool.size.toNat) {u32 : BitVec 32} :
    PoolSizeSetExact env pool_id pool u32 db ↔ PoolSizeSetFits pool u32 := by
  obtain ⟨hrc, hset⟩ := bufferPoolAttrSet_size hacc hpool u32
  have hle : pool.shared_size ≤ pool.size := by
    rw [BitVec.le_def]
    omega
  obtain ⟨hsum, hright⟩ := sharedAfter_toInt hle u32
  have hvalid := validateSharedBufferPoolSize_success (some pool) { pool with size := u32 }
  have hok := @validateSharedBufferPoolSize_ok (some pool) { pool with size := u32 }
  simp only [Option.elim, BitVec.sub_add_cancel, hsum] at hvalid
  rw [PoolSizeSetExact, hrc]
  generalize validateSharedBufferPoolSize _ _ = valid at *
  have hvalid : valid.1 = .success ↔ pool.XoffTyped ∧ pool.xoff_size ≤ u32 ∧
      (0 ≤ pool.sharedAfter u32 ∧ pool.sharedAfter u32 < 2 ^ 31 ∨ pool.sharedAfter u32 < -2 ^ 31) := hvalid
  rw [PoolSizeSetFits]
  by_cases ht : 0 ≤ pool.sharedAfter u32
  · have hxoff : pool.xoff_size ≤ u32 := by
      rw [BitVec.le_def]
      unfold BufferPool.sharedAfter at ht
      omega
    rw [if_pos ht]
    constructor
    · intro h
      obtain ⟨htyped, -, hfit⟩ := hvalid.mp (h.1.mpr ht)
      exact ⟨by omega, htyped⟩
    · rintro ⟨hlt, htyped⟩
      have htaken := hvalid.mpr ⟨htyped, hxoff, .inl ⟨ht, hlt⟩⟩
      refine ⟨iff_of_true htaken ht, fun _ => ⟨_, hset htaken, ?_⟩⟩
      rw [(hok htaken).shared]
      simp only [Option.elim, BitVec.sub_add_cancel]
      exact hright ht
  · rw [if_neg ht]
    constructor
    · intro h
      by_contra! hbad
      exact ht (h.1.mp (hvalid.mpr ⟨hbad.2.2, BitVec.not_lt.mp hbad.2.1, .inr hbad.1⟩))
    · intro hbad
      have hrefused : valid.1 ≠ .success := by
        intro h
        obtain ⟨htyped, hxoff, hfit⟩ := hvalid.mp h
        rcases hbad with hbig | hlt | hmistyped
        · omega
        · exact BitVec.not_lt.mpr hxoff hlt
        · exact hmistyped htyped
      exact ⟨iff_of_false hrefused ht, fun h => absurd h hrefused⟩

theorem poolCreateExact_iff (hacc : PoolAccepts env) (hreq : PoolRequest env attr_list pool db) :
    PoolCreateExact env attr_list pool db ↔ pool.size.toNat - pool.xoff_size.toNat < 2 ^ 31 := by
  obtain ⟨hrc, hpools⟩ := createBufferPool_pool hacc hreq
  have hshared : pool.shared_size = 0 := by
    have h := (updateBufferPoolNode_kept attr_list 0 none bufferPoolInit).1
    rwa [hreq.scan] at h
  have hvalid := validateSharedBufferPoolSize_success none pool
  have hok := @validateSharedBufferPoolSize_ok none pool
  rw [PoolCreateExact, hrc]
  generalize validateSharedBufferPoolSize _ _ = valid at *
  have hsum : (pool.shared_size + pool.size - 0 - pool.xoff_size + 0 : BitVec 32) =
      pool.size - pool.xoff_size := by
    rw [hshared]
    simp
  have hnat : (pool.size - pool.xoff_size).toNat = pool.size.toNat - pool.xoff_size.toNat :=
    BitVec.toNat_sub_of_le hreq.xoff
  simp only [Option.elim, hsum, hreq.typed, hreq.xoff, true_and] at hvalid
  rw [BitVec.toInt_eq_toNat_cond, hnat] at hvalid
  have hfit : valid.1 = .success ↔ pool.size.toNat - pool.xoff_size.toNat < 2 ^ 31 := by
    rw [hvalid]
    split <;> omega
  rw [← hfit]
  refine ⟨And.left, fun h => ⟨h, _, hpools h, ?_⟩⟩
  rw [(hok h).shared]
  simp only [Option.elim, hsum, hnat]

/-- **When pool sizes are checked exactly**: the size that is set, and the sizes of a new pool. -/
theorem poolShared_exact_iff (hacc : PoolAccepts env) :
    (∀ db pool_id pool u32, db.pools pool_id = some pool →
      pool.shared_size.toNat + pool.xoff_size.toNat ≤ pool.size.toNat →
      (PoolSizeSetExact env pool_id pool u32 db ↔ PoolSizeSetFits pool u32)) ∧
    ∀ db attr_list pool, PoolRequest env attr_list pool db →
      (PoolCreateExact env attr_list pool db ↔ pool.size.toNat - pool.xoff_size.toNat < 2 ^ 31) :=
  ⟨fun _ _ _ u32 hpool hroom => poolSizeSetExact_iff hacc hpool hroom,
    fun _ _ _ hreq => poolCreateExact_iff hacc hreq⟩

theorem poolAccepts_good : PoolAccepts (.good 1) := ⟨fun _ _ => rfl, fun _ _ => rfl⟩

/-- A pool of `2 ^ 32 - 1` bytes that are all given away. -/
def spentPool : BufferPool := { bufferPoolInit with size := 0xFFFFFFFF }

def spentPools : QosDb := insertPoolNode ⟨.bufferPool, 2⟩ spentPool .initial

theorem poolShared_exact_iff_small :
    PoolSizeSetExact (.good 1) ⟨.bufferPool, 2⟩ spentPool 0xFFFFFFFF spentPools ∧
    PoolCreateExact (.good 1) [.size 100] { bufferPoolInit with size := 100 } .initial := by
  have hboth := poolShared_exact_iff poolAccepts_good
  refine ⟨(hboth.1 _ _ _ _ rfl (by decide)).mpr ?_, (hboth.2 _ _ _ ?_).mpr (by decide)⟩
  · rw [PoolSizeSetFits, if_pos (by decide)]
    exact ⟨by decide, fun _ => rfl⟩
  · exact ⟨by simp, rfl, rfl, fun _ => rfl, by decide, rfl⟩

/-- **The counterexample.** The size 0 is taken, and one byte is left. -/
theorem not_poolSizeSetExact_spent : ¬ PoolSizeSetExact (.good 1) ⟨.bufferPool, 2⟩ spentPool 0 spentPools := by
  intro h
  have htaken : (bufferPoolAttrSet (.good 1) ⟨.bufferPool, 2⟩ (.size 0) spentPools).1 = .success := by decide
  exact absurd (h.1.mp htaken) (by decide)

end OpxSai
