import OpxSai.Qos.BufferCases

/-!
# What the buffers and the WREDs write for one user

A queue or a port asks the WREDs and the buffer profiles for its own part. What they leave alone is read
off their writes.
-/

namespace OpxSai
variable {wred_id o queue_id : Oid} {type : WredLink} {db : QosDb}

/-- `db'` comes from `db` by the writes of the buffers and the WREDs for one user. -/
inductive UserWrites (env : QosEnv) (user : Oid) : QosDb → QosDb → Prop
  | refl (db : QosDb) : UserWrites env user db db
  | trans {db₁ db₂ db₃ : QosDb} (h : UserWrites env user db₁ db₂) (h' : UserWrites env user db₂ db₃) :
      UserWrites env user db₁ db₃
  | call {c : QosCall} (hc : ∀ db : QosDb, (db.done c).hw_profile = db.hw_profile) (db : QosDb) :
      UserWrites env user db (db.call env c).2
  | apply (old_profile new_profile : BufferProfile) (db : QosDb) :
      UserWrites env user db (db.call env (.profileApply user old_profile new_profile)).2
  | wredId (o wred_id : Oid) (type : WredLink) (db : QosDb) :
      UserWrites env user db (setLinkWredId o type wred_id db)
  | wredLinks (wred_id : Oid) (type : WredLink) (f : List Oid → List Oid) (db : QosDb) :
      UserWrites env user db (setWredLinks wred_id type f db)
  | mark (o : Oid) (type : WredLink) (mark : Bool) (db : QosDb) :
      UserWrites env user db (wredLinkMarkSwCache o type mark db)
  | pool (pool_id : Oid) (f : BufferPool → BufferPool) (db : QosDb) :
      UserWrites env user db (setBufferPool pool_id f db)
  | profileId (profile_id : Oid) (db : QosDb) :
      UserWrites env user db (setBufferProfileId user profile_id db)
  | profileOf (profile_id : Oid) (f : BufferProfile → BufferProfile) (db : QosDb) :
      UserWrites env user db (setProfileOf profile_id f db)

namespace UserWrites

variable {env : QosEnv} {user : Oid}

/-! ## WREDs -/

theorem wredLinkInsert :
    UserWrites env user db (wredLinkInsert wred_id o type db) := by
  unfold OpxSai.wredLinkInsert
  split
  · exact .trans (.wredLinks wred_id type _ db) (.wredId o wred_id type _)
  · exact refl db

theorem wredLinkRemove (wred_id) :
    UserWrites env user db (wredLinkRemove wred_id o type db) := by
  unfold OpxSai.wredLinkRemove
  split
  · exact .trans (.wredLinks wred_id type _ db) (.wredId o .null type _)
  · exact refl db

theorem wredLinkNodeAdd (db) :
    UserWrites env user db (wredLinkNodeAdd o wred_id type db) := by
  simp only [OpxSai.wredLinkNodeAdd]
  split
  · exact (wredLinkRemove _).trans wredLinkInsert
  · exact wredLinkInsert

theorem wredLinkSetCache (rc) (db) :
    UserWrites env user db (wredLinkSetCache o type rc db).2 := by
  simp only [OpxSai.wredLinkSetCache]
  split
  · exact .mark o type true db
  split
  · exact .mark o type false db
  · exact refl db

theorem wredLinkSet (o wred_id) (type) (db) :
    UserWrites env user db (wredLinkSet env o wred_id type db).2 := by
  have hset : ∀ params, UserWrites env user db (npuWredLinkSet env o params type db).2 := by
    intro params
    unfold npuWredLinkSet
    exact .call (fun _ => rfl) db
  have hreset : UserWrites env user db (db.call env (.wredLinkReset o type)).2 := .call (fun _ => rfl) db
  simp only [OpxSai.wredLinkSet]
  split
  · exact refl db
  split
  · split
    · exact refl db
    rename_i node _
    refine UserWrites.trans ?_ (wredLinkSetCache _ _)
    split
    · exact (hset node.toWredParams).trans (wredLinkNodeAdd _)
    · exact hset node.toWredParams
  · split
    · exact refl db
    refine UserWrites.trans ?_ (wredLinkSetCache _ _)
    split
    · exact hreset.trans (wredLinkRemove _)
    · exact hreset

theorem wredPoolUpdateCache :
    UserWrites env user db (wredPoolUpdateCache env o type db).2 := by
  have hasked : UserWrites env user db (db.call env (.wredQueueIds o)).2 := .call (fun _ => rfl) db
  simp only [OpxSai.wredPoolUpdateCache]
  split
  · exact refl db
  split
  · have hreset := hasked.trans (@call env user (.wredLinkReset o type) (fun _ => rfl) _)
    split
    · exact hreset
    · exact hreset.trans (mark o type true _)
  · exact hasked

theorem wredLinkUpdateCache :
    UserWrites env user db (wredLinkUpdateCache env queue_id db).2 := by
  simp only [OpxSai.wredLinkUpdateCache]
  split
  · exact refl db
  split
  · exact refl db
  split
  · exact refl db
  rename_i queue _ _ _
  have hpool : UserWrites env user db ((wredQueueGetPools queue db).2.1.elim (.success, db) fun pool_id =>
      OpxSai.wredPoolUpdateCache env pool_id .bufferPool db).2 := by
    cases (wredQueueGetPools queue db).2.1 with
    | none => exact refl db
    | some pool_id => exact wredPoolUpdateCache
  split
  · exact hpool
  cases (wredQueueGetPools queue db).2.2 with
  | none => exact hpool
  | some port_pool_id => exact hpool.trans wredPoolUpdateCache

theorem wredPoolApplyCache :
    UserWrites env user db (wredPoolApplyCache env o type db).2 := by
  simp only [OpxSai.wredPoolApplyCache]
  split
  · exact wredLinkSet o _ _ db
  · exact refl db

theorem wredLinkApplyCache (db) :
    UserWrites env user db (wredLinkApplyCache env queue_id db).2 := by
  simp only [OpxSai.wredLinkApplyCache]
  split
  · exact refl db
  split
  · exact refl db
  split
  · exact refl db
  rename_i queue _ _ _
  have hpool : UserWrites env user db ((wredQueueGetPools queue db).2.1.elim (.success, db) fun pool_id =>
      OpxSai.wredPoolApplyCache env pool_id .bufferPool db).2 := by
    cases (wredQueueGetPools queue db).2.1 with
    | none => exact refl db
    | some pool_id => exact wredPoolApplyCache
  split
  · exact hpool
  cases (wredQueueGetPools queue db).2.2 with
  | none => exact hpool
  | some port_pool_id => exact hpool.trans wredPoolApplyCache

/-! ## Buffer profiles -/

theorem bufferPoolSizeRecalc (pool_id) (size : BitVec 32) (is_add : Bool) (db) :
    UserWrites env user db (bufferPoolSizeRecalc env pool_id size is_add db).2 := by
  have hcall : ∀ f attr, UserWrites env user db ((setBufferPool pool_id f db).call env
      (.poolAttrSet pool_id attr)).2 := fun f attr =>
    .trans (.pool pool_id f db) (.call (fun _ => rfl) _)
  simp only [OpxSai.bufferPoolSizeRecalc]
  split
  · exact refl db
  split
  · exact refl db
  generalize hset : (setBufferPool pool_id _ db).call _ _ = set
  have hsame : UserWrites env user db set.2 := by
    rw [← hset]
    exact hcall _ _
  split
  · exact hsame.trans (.pool pool_id _ _)
  · exact hsame

theorem objUpdateBufferProfileNode (profile_id) (db) :
    UserWrites env user db (objUpdateBufferProfileNode user profile_id db).2 := by
  have hset := @UserWrites.profileId env user profile_id db
  have hleft : ∀ old_profile_id, UserWrites env user db (if old_profile_id ≠ Oid.null then
      OpxSai.setProfileOf old_profile_id (fun profile => profile.removeUser user)
        (OpxSai.setBufferProfileId user profile_id db)
      else OpxSai.setBufferProfileId user profile_id db) := by
    intro old_profile_id
    split
    · exact hset.trans (profileOf _ _ _)
    · exact hset
  simp only [OpxSai.objUpdateBufferProfileNode]
  split
  · exact refl db
  split
  · split
    · exact refl db
    simp only
    split
    · exact (hleft _).trans (profileOf _ _ _)
    · exact hleft _
  · split
    · exact refl db
    simp only
    split
    · exact (hleft _).trans (profileOf _ _ _)
    · exact hleft _
  · split
    · exact refl db
    simp only
    split
    · exact (hleft _).trans (profileOf _ _ _)
    · exact hleft _
  · exact refl db

theorem objUpdateBufferProfile {profile_id : Oid} :
    UserWrites env user db (objUpdateBufferProfile env user profile_id db).2 := by
  simp only [OpxSai.objUpdateBufferProfile]
  split
  · exact refl db
  split
  · exact refl db
  split
  · exact refl db
  split
  · exact refl db
  split
  · exact refl db
  split
  · exact refl db
  rename_i profile _ _ _ old_profile _ _ tmp_size is_add _
  have happlied := @apply env user old_profile profile db
  split
  · exact happlied
  have hupdated := happlied.trans (objUpdateBufferProfileNode profile_id _)
  split
  · split
    · exact hupdated.trans (apply _ _ _)
    · exact hupdated
  · exact objBufferProfileRecalc_keeps (fun pool_id size is_add _ h =>
      h.trans (bufferPoolSizeRecalc pool_id size is_add _)) _ _ _ _ _ _ hupdated

end UserWrites

end OpxSai
