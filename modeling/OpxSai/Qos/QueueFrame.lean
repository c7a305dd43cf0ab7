import OpxSai.Qos.SchedGroup
import OpxSai.Qos.UserWrites

/-!
# What the buffers and the WREDs leave of a queue

The calls of the buffers and of the WREDs store their own ids in the nodes of the queues. The port, the
parent and the scheduler of a queue stay.
-/

namespace OpxSai

open SchedDb
variable {db db' : QosDb}

/-- A queue without its WRED and its buffer profile. -/
def QosQueue.place (node : QosQueue) : QosQueue :=
  { node with wred_id := .null, buffer_profile_id := .null }

variable {f : QosQueue → QosQueue}

/-- The buffers and the WREDs write for one user: the queues differ in their WREDs and buffer profiles
alone, and the buffer profiles of the other users are left. -/
structure QosWrites (user : Oid) (db db' : QosDb) : Prop where
  places : ∀ o, (db'.queues o).map QosQueue.place = (db.queues o).map QosQueue.place
  ports : ∀ p ≠ user, db'.ports p = db.ports p
  hw : ∀ p ≠ user, db'.hw_profile p = db.hw_profile p

namespace QosWrites

variable {user : Oid}

theorem refl (db) : QosWrites user db db := ⟨fun _ => rfl, fun _ _ => rfl, fun _ _ => rfl⟩

theorem trans {db₁ db₂ db₃} (h : QosWrites user db₁ db₂) (h' : QosWrites user db₂ db₃) :
    QosWrites user db₁ db₃ where
  places o := (h'.places o).trans (h.places o)
  ports p hp := (h'.ports p hp).trans (h.ports p hp)
  hw p hp := (h'.hw p hp).trans (h.hw p hp)

theorem of_nodes (hqueues : db'.queues = db.queues) (hports : db'.ports = db.ports)
    (hhw : db'.hw_profile = db.hw_profile) : QosWrites user db db' where
  places o := by rw [hqueues]
  ports p _ := by rw [hports]
  hw p _ := by rw [hhw]

theorem call {env} {c} (hc : ∀ db : QosDb, (db.done c).hw_profile = db.hw_profile) :
    QosWrites user db (db.call env c).2 :=
  of_nodes (QosDb.call_queues db env c) (QosDb.call_ports db env c) (QosDb.call_hw_profile db env hc)

theorem apply {env} {old_profile new_profile} :
    QosWrites user db (db.call env (.profileApply user old_profile new_profile)).2 := by
  refine ⟨fun o => by rw [QosDb.call_queues], fun p _ => by rw [QosDb.call_ports], fun p hp => ?_⟩
  by_cases hok : (db.call env (.profileApply user old_profile new_profile)).1 = .success
  · rw [QosDb.call_ok db env _ hok]
    funext id
    exact if_neg hp
  · exact congrFun (QosDb.call_failed_hw db env _ hok).2 p

theorem store {queue_id} (hf : ∀ node, (f node).place = node.place)
    (h : db'.queues = fun o => if o = queue_id then (db.queues o).map f else db.queues o)
    (hports : db'.ports = db.ports) (hhw : db'.hw_profile = db.hw_profile) :
    QosWrites user db db' := by
  refine ⟨fun o => ?_, fun p _ => by rw [hports], fun p _ => by rw [hhw]⟩
  rw [h]
  simp only
  split
  · cases db.queues o with
    | none => rfl
    | some node => exact congrArg some (hf node)
  · rfl

variable {env : QosEnv}

theorem of_user (h : UserWrites env user db db') : QosWrites user db db' := by
  induction h with
  | refl db => exact refl db
  | trans _ _ h h' => exact h.trans h'
  | call hc db => exact call hc
  | apply old_profile new_profile db => exact apply
  | wredId o wred_id type db =>
    cases type with
    | queue => exact store (f := fun q => { q with wred_id := wred_id }) (fun _ => rfl) rfl rfl rfl
    | port | bufferPool => exact of_nodes rfl rfl rfl
  | mark o type mark db => cases type <;> exact of_nodes rfl rfl rfl
  | wredLinks | pool => exact of_nodes rfl rfl rfl
  | profileId profile_id db =>
    unfold setBufferProfileId
    split
    · exact ⟨fun _ => rfl, fun p hp => if_neg hp, fun _ _ => rfl⟩
    · exact store (f := fun q => { q with buffer_profile_id := profile_id }) (fun _ => rfl) rfl rfl rfl
    · exact of_nodes rfl rfl rfl
    · exact refl db
  | profileOf profile_id f db =>
    unfold setProfileOf
    cases db.profile_tree profile_id <;> exact of_nodes rfl rfl rfl

end QosWrites

/-! ## The steps of a queue -/

/-- Nothing but the state of the buffers and WREDs differs, and in it the queues keep their places. -/
structure QosOnly (user : Oid) (db db' : SchedDb) : Prop where
  writes : QosWrites user db.qos db'.qos
  rest : { db' with qos := db.qos } = db

namespace QosOnly

variable {user : Oid}

variable (in_tree : Bool) (queue_id profile_id : Oid) (db : SchedDb)

theorem refl (db) : QosOnly user db db := ⟨.refl _, rfl⟩

theorem trans {db₁ db₂ db₃} (h : QosOnly user db₁ db₂) (h' : QosOnly user db₂ db₃) :
    QosOnly user db₁ db₃ := by
  refine ⟨h.writes.trans h'.writes, ?_⟩
  have hrest : { db₃ with qos := db₁.qos } = { db₂ with qos := db₁.qos } :=
    congrArg (fun db : SchedDb => { db with qos := db₁.qos }) h'.rest
  exact hrest.trans h.rest

theorem onQos {env} {f : QosDb → Status × QosDb} {db}
    (h : UserWrites env user db.qos (f db.qos).2) : QosOnly user db (onQos f db).2 := ⟨.of_user h, rfl⟩

theorem setQueue (hf : ∀ node, (f node).place = node.place) (db) :
    QosOnly user db (setQueue queue_id f db) := ⟨.store hf rfl rfl rfl, rfl⟩

theorem storeQueue {in_tree : Bool} {queue_id}
    (hf : ∀ node, (f node).place = node.place) (db) :
    QosOnly user db (storeQueue in_tree queue_id f db) := by
  unfold OpxSai.storeQueue
  split
  · exact setQueue _ hf db
  · exact refl db

theorem storeBuffer : QosOnly user db (OpxSai.storeQueue in_tree queue_id
      (fun q => { q with buffer_profile_id := profile_id }) db) := by
  refine storeQueue ?_ db
  exact fun _ => rfl

theorem storeWred {wred_id} (db) :
    QosOnly user db (OpxSai.storeQueue in_tree queue_id (fun q => { q with wred_id := wred_id }) db) := by
  refine storeQueue ?_ db
  exact fun _ => rfl

theorem setBuffer :
    QosOnly user db (OpxSai.setQueue queue_id (fun q => { q with buffer_profile_id := profile_id }) db) := by
  refine setQueue _ ?_ db
  exact fun _ => rfl

theorem sched_groups {db db'} (h : QosOnly user db db') : db'.sched_groups = db.sched_groups :=
  (congrArg SchedDb.sched_groups h.rest :)

theorem qos_ports {db db'} (h : QosOnly user db db') : db'.qos_ports = db.qos_ports :=
  (congrArg SchedDb.qos_ports h.rest :)

end QosOnly

section Queue

variable (env : SchedEnv) (queue_id : Oid) (node : QosQueue)

variable (in_tree : Bool) (at_ : QueueRemoval) (db : SchedDb)

theorem queueRemoveBuffer_same :
    QosOnly queue_id db (queueRemoveBuffer env queue_id node in_tree db).db := by
  simp only [queueRemoveBuffer]
  split
  · exact .refl db
  have hupdated : QosOnly queue_id db (onQos (objUpdateBufferProfile env.qos queue_id .null)
      (onQos (wredLinkUpdateCache env.qos queue_id) db).2).2 :=
    QosOnly.trans (.onQos .wredLinkUpdateCache)
      (.onQos .objUpdateBufferProfile)
  split
  · exact hupdated
  · exact hupdated.trans (.storeBuffer _ _ _ _)

theorem queueRemoveWred_same :
    QosOnly queue_id at_.db (queueRemoveWred env queue_id node in_tree at_).db := by
  simp only [queueRemoveWred]
  split
  · exact .refl _
  have hset : QosOnly queue_id at_.db (onQos (wredLinkSet env.qos queue_id .null .queue) at_.db).2 :=
    .onQos (.wredLinkSet _ _ _ _)
  split
  · exact hset
  · exact hset.trans (.storeWred _ _ _)

theorem queueRemoveRevert_same :
    QosOnly queue_id at_.db (queueRemoveRevert env queue_id node in_tree at_) := by
  have hbuffer : QosOnly queue_id at_.db (if at_.buffer_profile_removed = true then
      if (onQos (objUpdateBufferProfile env.qos queue_id node.buffer_profile_id) at_.db).1 ≠ .success
      then (onQos (objUpdateBufferProfile env.qos queue_id node.buffer_profile_id) at_.db).2
      else (onQos (wredLinkApplyCache env.qos queue_id) (storeQueue in_tree queue_id
        (fun q => { q with buffer_profile_id := node.buffer_profile_id })
        (onQos (objUpdateBufferProfile env.qos queue_id node.buffer_profile_id) at_.db).2)).2
      else at_.db) := by
    have hupdated : QosOnly queue_id at_.db
        (onQos (objUpdateBufferProfile env.qos queue_id node.buffer_profile_id) at_.db).2 :=
      .onQos .objUpdateBufferProfile
    split
    · split
      · exact hupdated
      · exact (hupdated.trans (.storeBuffer _ _ _ _)).trans
          (.onQos (.wredLinkApplyCache _))
    · exact .refl _
  simp only [queueRemoveRevert]
  generalize (if at_.buffer_profile_removed = true then
      if (onQos (objUpdateBufferProfile env.qos queue_id node.buffer_profile_id) at_.db).1 ≠ .success
      then (onQos (objUpdateBufferProfile env.qos queue_id node.buffer_profile_id) at_.db).2
      else (onQos (wredLinkApplyCache env.qos queue_id) (storeQueue in_tree queue_id
        (fun q => { q with buffer_profile_id := node.buffer_profile_id })
        (onQos (objUpdateBufferProfile env.qos queue_id node.buffer_profile_id) at_.db).2)).2
      else at_.db) = back at hbuffer ⊢
  split
  · have hset : QosOnly queue_id back (onQos (wredLinkSet env.qos queue_id node.wred_id .queue) back).2 :=
      .onQos (.wredLinkSet _ _ _ _)
    split
    · exact hbuffer.trans hset
    · exact (hbuffer.trans hset).trans (.storeWred _ _ _)
  · exact hbuffer

theorem queueCreateWred_same : QosOnly queue_id db (queueCreateWred env queue_id node db).2 := by
  simp only [queueCreateWred]
  split
  · exact .refl db
  split
  · exact .refl db
  · exact .onQos (.wredLinkSet _ _ _ _)

theorem queueCreateBuffer_same : QosOnly queue_id db (queueCreateBuffer env queue_id node db).2 := by
  simp only [queueCreateBuffer]
  split
  · exact .refl db
  have hupdated : QosOnly queue_id db (onQos (objUpdateBufferProfile env.qos queue_id node.buffer_profile_id)
      (setQueue queue_id (fun q => { q with buffer_profile_id := .null }) db)).2 :=
    (QosOnly.setBuffer _ _ db).trans
      (.onQos .objUpdateBufferProfile)
  split
  · exact hupdated
  · exact (hupdated.trans (.setBuffer _ _ _)).trans
      (.onQos (.wredLinkApplyCache _))

end Queue

end OpxSai
