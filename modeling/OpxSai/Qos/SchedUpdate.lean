import OpxSai.Qos.Sched

/-!
# A scheduler and the objects that use it

Where a scheduler is no object of the hardware, a set gives the new parameters to each queue, scheduler
group and port that uses it. Where one does not take them, those before it get the old ones back; the
scheduler keeps the new value all the same.

* `schedulerReapply_all` — every object has the new parameters, or every object has the old ones;
* `schedulerSetAll_iff` — the property holds exactly under the condition.
-/

namespace OpxSai

open SchedDb

variable {env : SchedEnv} {attr : SchedulerAttr} {node : Scheduler} {users : List Oid}

/-! ## Property -/

/-- The objects of a scheduler have the parameters. -/
def SchedProgrammed (users : SchedUser → List Oid) (params : SchedParams) (db : SchedDb) : Prop :=
  ∀ user, ∀ o ∈ users user, db.hw_scheduler o = some params

def RevertSucceeds (env : SchedEnv) : Prop :=
  ∀ log o old new, env.outside log (.schedulerSet o old new true) = .success

def schedulerNew (attr : SchedulerAttr) (node : Scheduler) : Scheduler :=
  schedulerAttrSet [attr] node

/-- A set is for all objects and the stored scheduler, or for none. -/
structure SchedulerSetAll (env : SchedEnv) (attr : SchedulerAttr) (node : Scheduler) (db : SchedDb) :
    Prop where
  success : (schedulerAttributeSet env node.scheduler_id attr db).1 = .success →
    SchedProgrammed node.users (schedulerNew attr node).toSchedParams
      (schedulerAttributeSet env node.scheduler_id attr db).2 ∧
    (schedulerAttributeSet env node.scheduler_id attr db).2.schedulers node.scheduler_id =
      some (schedulerNew attr node)
  failed : (schedulerAttributeSet env node.scheduler_id attr db).1 ≠ .success →
    SchedProgrammed node.users node.toSchedParams
      (schedulerAttributeSet env node.scheduler_id attr db).2 ∧
    (schedulerAttributeSet env node.scheduler_id attr db).2.schedulers node.scheduler_id = some node

/-! ## One list -/

def reapplyLog (env : SchedEnv) (old new : SchedParams) (users : List Oid)
    (log : CallLog SchedCall) : CallLog SchedCall :=
  users.foldl (fun log o => env.outside.log (.schedulerSet o (some old) new false) log) log

/-- Each object of a list takes the new parameters when it is asked. -/
def ReapplyTaken (env : SchedEnv) (old new : SchedParams) : List Oid → CallLog SchedCall → Prop
  | [], _ => True
  | o :: users, log =>
    env.outside log (.schedulerSet o (some old) new false) = .success ∧
    ReapplyTaken env old new users (env.outside.log (.schedulerSet o (some old) new false) log)

theorem reapplyTaken_append (env) (old new) (users users') :
    ∀ log, ReapplyTaken env old new (users ++ users') log ↔
      ReapplyTaken env old new users log ∧
        ReapplyTaken env old new users' (reapplyLog env old new users log) := by
  induction users with
  | nil => exact fun log => ⟨fun h => ⟨trivial, h⟩, fun h => h.2⟩
  | cons o users ih =>
    intro log
    simp only [List.cons_append, ReapplyTaken, ih, reapplyLog, List.foldl_cons]
    exact and_assoc.symm

/-- **The new parameters go to a list.** The objects before the first that does not take them have
them. -/
theorem schedulerUsersReapply_forward {env} {old new} :
    ∀ count db, ∃ updated rest, users = updated ++ rest ∧
      (schedulerUsersReapply env old new 0 false users count db).2.1 = count + updated.length ∧
      (∀ o, (schedulerUsersReapply env old new 0 false users count db).2.2.hw_scheduler o =
        if o ∈ updated then some new else db.hw_scheduler o) ∧
      ((schedulerUsersReapply env old new 0 false users count db).1 = .success → rest = []) := by
  induction users with
  | nil => exact fun _ _ => ⟨[], [], rfl, rfl, fun _ => rfl, fun _ => rfl⟩
  | cons user users ih =>
    intro count db
    simp only [schedulerUsersReapply, Bool.false_eq_true, false_and, if_false]
    split
    next hfail =>
      refine ⟨[], user :: users, rfl, rfl, fun o => ?_, fun hok => absurd hok hfail⟩
      simp only [List.not_mem_nil, if_false]
      exact congrFun (call_failed_hw_scheduler db env _ hfail) o
    rename_i hok
    obtain ⟨updated, rest, husers, hcount, hhw, hrest⟩ :=
      ih (count + 1) (db.call env (.schedulerSet user (some old) new false)).2
    refine ⟨user :: updated, rest, by rw [husers, List.cons_append], ?_, fun o => ?_, hrest⟩
    · rw [hcount, List.length_cons]
      omega
    · rw [hhw o, call_ok_schedulerSet db env (not_not.mp hok)]
      by_cases ho : o ∈ updated
      · simp [ho]
      · by_cases hself : o = user <;> simp [ho, hself]

/-- It succeeds exactly when each object takes them. -/
theorem schedulerUsersReapply_taken {env} {old new} :
    ∀ count db, ((schedulerUsersReapply env old new 0 false users count db).1 = .success ↔
        ReapplyTaken env old new users db.sched_log) ∧
      ((schedulerUsersReapply env old new 0 false users count db).1 = .success →
        (schedulerUsersReapply env old new 0 false users count db).2.2.sched_log =
          reapplyLog env old new users db.sched_log) := by
  induction users with
  | nil => exact fun _ _ => ⟨⟨fun _ => trivial, fun _ => rfl⟩, fun _ => rfl⟩
  | cons user users ih =>
    intro count db
    simp only [schedulerUsersReapply, Bool.false_eq_true, false_and, if_false, ReapplyTaken]
    split
    next hfail =>
      exact ⟨⟨fun h => absurd h hfail, fun h => absurd h.1 hfail⟩, fun h => absurd h hfail⟩
    rename_i hok
    obtain ⟨htaken, hlog⟩ := ih (count + 1) (db.call env (.schedulerSet user (some old) new false)).2
    rw [call_sched_log] at htaken hlog
    exact ⟨htaken.trans (and_iff_right (not_not.mp hok)).symm, hlog⟩

/-- **The old parameters go back to a list.** As many objects as are counted have them. -/
theorem schedulerUsersReapply_back (hrevert : RevertSucceeds env) (old new) {p_count : Nat} :
    ∀ count db o,
      (schedulerUsersReapply env new old p_count true users count db).2.2.hw_scheduler o =
        if o ∈ users.take (p_count - count) then some old else db.hw_scheduler o := by
  induction users with
  | nil =>
    intro count db o
    rw [if_neg (by simp)]
    rfl
  | cons user users ih =>
    intro count db o
    simp only [schedulerUsersReapply, true_and]
    have hok : (db.call env (.schedulerSet user (some new) old true)).1 = .success :=
      hrevert _ _ _ _
    split
    next hstop => rw [Nat.sub_eq_zero_of_le hstop, if_neg (by simp)]
    rename_i hgo
    rw [if_ok hok, ih, call_ok_schedulerSet db env hok]
    rw [show p_count - count = (p_count - (count + 1)) + 1 by omega, List.take_succ_cons]
    by_cases ho : o ∈ users.take (p_count - (count + 1))
    · simp [ho]
    · by_cases hself : o = user <;> simp [ho, hself]

/-! ## The three lists -/

def AmongFirst (users : SchedUser → List Oid) (queues groups ports : Nat) (o : Oid) : Prop :=
  o ∈ (users .queue).take queues ∨ o ∈ (users .schedGroup).take groups ∨ o ∈ (users .port).take ports

theorem schedulerReapplyBack_hw (hrevert : RevertSucceeds env) {old new}
    {queues groups ports : Nat} {db} {o} :
    (AmongFirst old.users queues groups ports o →
      (schedulerReapplyBack env old new queues groups ports db).hw_scheduler o =
        some old.toSchedParams) ∧ (¬ AmongFirst old.users queues groups ports o →
      (schedulerReapplyBack env old new queues groups ports db).hw_scheduler o =
        db.hw_scheduler o) := by
  have hback : ∀ (cnt : Nat) (users : List Oid) (db : SchedDb),
      (if cnt ≠ 0 then (schedulerUsersReapply env new.toSchedParams old.toSchedParams cnt true
        users 0 db).2.2 else db).hw_scheduler o =
        if o ∈ users.take cnt then some old.toSchedParams else db.hw_scheduler o := by
    intro cnt users db
    split
    · exact schedulerUsersReapply_back hrevert _ _ 0 db o
    next hzero => rw [not_not.mp hzero, if_neg (by simp)]
  simp only [schedulerReapplyBack, schedulerQueueReapply, schedulerSchedGroupReapply,
    schedulerPortReapply, reapplyUsers, if_true]
  rw [hback, hback, hback, AmongFirst]
  constructor
  · rintro (h | h | h)
    · simp [h]
    · simp [h]
    · simp [h]
  · intro h
    obtain ⟨hq, hg, hp⟩ : _ ∧ _ ∧ _ := by
      exact ⟨fun h' => h (.inl h'), fun h' => h (.inr (.inl h')),
        fun h' => h (.inr (.inr h'))⟩
    rw [if_neg hp, if_neg hg, if_neg hq]

/-- So many objects of each list have the new parameters, and the others have what they had. -/
def Updated (old : Scheduler) (new : SchedParams) (queues groups ports : Nat) (db at_ : SchedDb) :
    Prop :=
  ∀ o, (AmongFirst old.users queues groups ports o → at_.hw_scheduler o = some new) ∧
    (¬ AmongFirst old.users queues groups ports o → at_.hw_scheduler o = db.hw_scheduler o)

theorem Updated.back (hrevert : RevertSucceeds env) {old new}
    {queues groups ports : Nat} {db at_}
    (hat : Updated old new.toSchedParams queues groups ports db at_)
    (hold : SchedProgrammed old.users old.toSchedParams db) :
    SchedProgrammed old.users old.toSchedParams (schedulerReapplyBack env old new queues groups ports at_):= by
  intro user o ho
  by_cases hin : AmongFirst old.users queues groups ports o
  · exact (schedulerReapplyBack_hw hrevert).1 hin
  · rw [(schedulerReapplyBack_hw hrevert).2 hin, (hat o).2 hin]
    exact hold user o ho

def reapplyOrder (users : SchedUser → List Oid) : List Oid :=
  users .queue ++ (users .schedGroup ++ users .port)

/-- **All objects or none.** The new parameters are on every object when each takes them, and else the
old ones are. -/
theorem schedulerReapply_all (hrevert : RevertSucceeds env) {old new}
    {db} (hold : SchedProgrammed old.users old.toSchedParams db) :
    ((schedulerReapply env old new db).1 = .success ↔
      ReapplyTaken env old.toSchedParams new.toSchedParams (reapplyOrder old.users) db.sched_log) ∧
    ((schedulerReapply env old new db).1 = .success →
      SchedProgrammed old.users new.toSchedParams (schedulerReapply env old new db).2) ∧
    ((schedulerReapply env old new db).1 ≠ .success →
      SchedProgrammed old.users old.toSchedParams (schedulerReapply env old new db).2) := by
  rw [reapplyOrder, reapplyTaken_append, reapplyTaken_append]
  obtain ⟨updq, restq, hq, hqcount, hqhw, hqrest⟩ := schedulerUsersReapply_forward 0 db
  obtain ⟨hqtaken, hqlog⟩ := schedulerUsersReapply_taken 0 db
  simp only [schedulerReapply, schedulerQueueReapply, schedulerSchedGroupReapply,
    schedulerPortReapply, reapplyUsers, Bool.false_eq_true, if_false]
  generalize schedulerUsersReapply _ _ _ 0 _ _ 0 _ = queues at hqcount hqhw hqrest hqtaken hqlog ⊢
  -- the queues
  have hqtake : (old.users .queue).take queues.2.1 = updq := by
    rw [hqcount, hq, Nat.zero_add, List.take_left]
  have hupdq : Updated old new.toSchedParams queues.2.1 0 0 db queues.2.2 := by
    intro o
    rw [AmongFirst, hqtake, hqhw o]
    constructor
    · rintro (h | h | h)
      · exact if_pos h
      · simp at h
      · simp at h
    · exact fun h => if_neg fun h' => h (.inl h')
  split
  next hfail =>
    exact ⟨⟨fun h => absurd h hfail, fun h => absurd (hqtaken.mpr h.1) hfail⟩,
      fun h => absurd h hfail, fun _ => hupdq.back hrevert hold⟩
  rename_i hqok
  have hqok := not_not.mp hqok
  rw [← hqlog hqok]
  -- the scheduler groups
  obtain ⟨updg, restg, hg, hgcount, hghw, hgrest⟩ := schedulerUsersReapply_forward 0 _
  obtain ⟨hgtaken, hglog⟩ := schedulerUsersReapply_taken 0 _
  generalize schedulerUsersReapply _ _ _ 0 _ _ 0 _ = groups at hgcount hghw hgrest hgtaken hglog ⊢
  have hgtake : (old.users .schedGroup).take groups.2.1 = updg := by
    rw [hgcount, hg, Nat.zero_add, List.take_left]
  have hupdg : Updated old new.toSchedParams queues.2.1 groups.2.1 0 db groups.2.2 := by
    intro o
    rw [AmongFirst, hgtake, hghw o]
    have hprev := hupdq o
    rw [AmongFirst] at hprev
    constructor
    · intro h
      by_cases hin : o ∈ updg
      · exact if_pos hin
      rw [if_neg hin]
      refine hprev.1 (h.imp_right fun h => ?_)
      rcases h with h | h
      · exact absurd h hin
      · exact .inr h
    · intro h
      rw [if_neg fun h' => h (.inr (.inl h'))]
      refine hprev.2 fun h' => h (h'.imp_right fun h' => ?_)
      rcases h' with h' | h'
      · simp at h'
      · exact .inr h'
  split
  next hfail =>
    exact ⟨⟨fun h => absurd h hfail, fun h => absurd (hgtaken.mpr h.2.1) hfail⟩,
      fun h => absurd h hfail, fun _ => hupdg.back hrevert hold⟩
  rename_i hgok
  have hgok := not_not.mp hgok
  rw [← hglog hgok]
  -- the ports
  obtain ⟨updp, restp, hp, hpcount, hphw, hprest⟩ := schedulerUsersReapply_forward 0 _
  obtain ⟨hptaken, -⟩ := schedulerUsersReapply_taken 0 _
  generalize schedulerUsersReapply _ _ _ 0 _ _ 0 _ = ports at hpcount hphw hprest hptaken ⊢
  have hptake : (old.users .port).take ports.2.1 = updp := by
    rw [hpcount, hp, Nat.zero_add, List.take_left]
  have hupdp : Updated old new.toSchedParams queues.2.1 groups.2.1 ports.2.1 db ports.2.2 := by
    intro o
    rw [AmongFirst, hptake, hphw o]
    have hprev := hupdg o
    rw [AmongFirst] at hprev
    constructor
    · intro h
      by_cases hin : o ∈ updp
      · exact if_pos hin
      · rw [if_neg hin]
        refine hprev.1 (h.imp_right fun h => h.imp_right fun h => absurd h hin)
    · intro h
      rw [if_neg fun h' => h (.inr (.inr h'))]
      refine hprev.2 fun h' => h (h'.imp_right fun h' => h'.imp_right fun h' => ?_)
      simp at h'
  split
  next hfail =>
    exact ⟨⟨fun h => absurd h hfail, fun h => absurd (hptaken.mpr h.2.2) hfail⟩,
      fun h => absurd h hfail, fun _ => hupdp.back hrevert hold⟩
  rename_i hpok
  have hpok := not_not.mp hpok
  refine ⟨⟨fun _ => ⟨hqtaken.mp hqok, hgtaken.mp hgok, hptaken.mp hpok⟩, fun _ => rfl⟩,
    fun _ => ?_, fun h => absurd rfl h⟩
  -- every list was walked to its end
  intro user o ho
  refine (hupdp o).1 ?_
  rw [AmongFirst, hqtake, hgtake, hptake]
  rw [hqrest hqok, List.append_nil] at hq
  rw [hgrest hgok, List.append_nil] at hg
  rw [hprest hpok, List.append_nil] at hp
  cases user with
  | queue => exact .inl (hq ▸ ho)
  | schedGroup => exact .inr (.inl (hg ▸ ho))
  | port => exact .inr (.inr (hp ▸ ho))

/-! ## The set -/

theorem schedulerNew_duplicate (hdup : schedulerIsDuplicateSet node attr = true) :
    schedulerNew attr node = node := by
  cases attr <;>
    simp only [schedulerIsDuplicateSet, beq_iff_eq, Bool.false_eq_true] at hdup <;>
    simp only [schedulerNew, schedulerAttrSet, List.foldl_cons, List.foldl_nil, schedulerAttrStore,
      ← hdup]

theorem schedulerNew_eq (heq : schedulerNew attr node = node) :
    schedulerIsDuplicateSet node attr = true ∨ ∃ id, attr = .readOnly id := by
  cases attr with
  | readOnly id => exact .inr ⟨id, rfl⟩
  | schedulingType s32 => exact .inl (beq_iff_eq.mpr (congrArg (·.sched_algo) heq).symm)
  | schedulingWeight u8 => exact .inl (beq_iff_eq.mpr (congrArg (·.weight) heq).symm)
  | meterType s32 => exact .inl (beq_iff_eq.mpr (congrArg (·.shape_type) heq).symm)
  | minBandwidthRate u64 => exact .inl (beq_iff_eq.mpr (congrArg (·.min_bandwidth_rate) heq).symm)
  | minBandwidthBurstRate u64 =>
    exact .inl (beq_iff_eq.mpr (congrArg (·.min_bandwidth_burst) heq).symm)
  | maxBandwidthRate u64 => exact .inl (beq_iff_eq.mpr (congrArg (·.max_bandwidth_rate) heq).symm)
  | maxBandwidthBurstRate u64 =>
    exact .inl (beq_iff_eq.mpr (congrArg (·.max_bandwidth_burst) heq).symm)

def SchedulerSetAccepted (env : SchedEnv) (attr : SchedulerAttr) (node : Scheduler) (db : SchedDb) :
    Prop :=
  schedulerAttributesValidate env [attr] .set = .success ∧
  schedulerIsDuplicateSet node attr = false ∧
  env.outside db.sched_log (.schedulerAttributeSet node.toSchedParams attr) = .success

/-- The condition. The set does not get to the objects, the attribute is none that is stored, or each
object takes the new parameters. -/
def SchedulerSetOk (env : SchedEnv) (attr : SchedulerAttr) (node : Scheduler) (db : SchedDb) : Prop :=
  SchedulerSetAccepted env attr node db → (∃ id, attr = .readOnly id) ∨
    ReapplyTaken env node.toSchedParams (schedulerNew attr node).toSchedParams
      (reapplyOrder node.users)
      (env.outside.log (.schedulerAttributeSet node.toSchedParams attr) db.sched_log)

/-- A set that does not get to the objects leaves them, and is a duplicate or fails. -/
theorem schedulerAttributeSet_refused {db} (htype : node.scheduler_id.type = .scheduler)
    (hnode : db.schedulers node.scheduler_id = some node) (hno : ¬ SchedulerSetAccepted env attr node db) :
    (schedulerAttributeSet env node.scheduler_id attr db).2.hw_scheduler = db.hw_scheduler ∧
    (schedulerAttributeSet env node.scheduler_id attr db).2.schedulers = db.schedulers ∧
    ((schedulerAttributeSet env node.scheduler_id attr db).1 = .success →
      schedulerNew attr node = node) := by
  simp only [schedulerAttributeSet]
  rw [if_ok htype, hnode]
  simp only
  split
  next hvalid => exact ⟨rfl, rfl, fun h => absurd h hvalid⟩
  rename_i hvalid
  split
  next hdup => exact ⟨rfl, rfl, fun _ => schedulerNew_duplicate hdup⟩
  rename_i hdup
  have hset : (db.call env (.schedulerAttributeSet node.toSchedParams attr)).1 ≠ .success := fun h =>
    hno ⟨not_not.mp hvalid, Bool.eq_false_iff.mpr hdup, h⟩
  rw [if_pos hset]
  exact ⟨call_failed_hw_scheduler db env _ hset, call_schedulers db env _, fun h => absurd h hset⟩

theorem schedulerAttributeSet_accepted
    {db} (hhw : env.scheduler_is_hw_object = false) (htype : node.scheduler_id.type = .scheduler)
    (hnode : db.schedulers node.scheduler_id = some node) (hacc : SchedulerSetAccepted env attr node db) :
    ∃ at_, at_.hw_scheduler = db.hw_scheduler ∧
      at_.sched_log =
        env.outside.log (.schedulerAttributeSet node.toSchedParams attr) db.sched_log ∧
      (schedulerAttributeSet env node.scheduler_id attr db).1 =
        (schedulerReapply env node (schedulerNew attr node) at_).1 ∧
      (schedulerAttributeSet env node.scheduler_id attr db).2.hw_scheduler =
        (schedulerReapply env node (schedulerNew attr node) at_).2.hw_scheduler ∧
      (schedulerAttributeSet env node.scheduler_id attr db).2.schedulers node.scheduler_id =
        some (schedulerNew attr node) := by
  obtain ⟨hvalid, hdup, hset⟩ := hacc
  have hset' : (db.call env (.schedulerAttributeSet node.toSchedParams attr)).1 = .success := hset
  refine ⟨(db.call env (.schedulerAttributeSet node.toSchedParams attr)).2, ?_,
    call_sched_log db env _, ?_⟩
  · rw [call_ok _ _ _ hset']
    rfl
  simp only [schedulerAttributeSet]
  rw [if_ok htype, hnode]
  simp only
  rw [if_ok hvalid, hdup, if_ok hset', if_pos hhw]
  simp only [Bool.false_eq_true, if_false]
  refine ⟨rfl, rfl, ?_⟩
  show (if node.scheduler_id = node.scheduler_id then _ else _) = _
  rw [if_pos rfl, schedulerReapply_schedulers, call_schedulers, hnode]
  rfl

/-- **Main result.** A set is for all objects and for the stored scheduler, or for none, exactly under
the condition, whatever the lists of the scheduler and the answers of the NPU are. -/
theorem schedulerSetAll_iff {env : SchedEnv} {attr : SchedulerAttr} {node : Scheduler} {db : SchedDb}
    (hhw : env.scheduler_is_hw_object = false) (hrevert : RevertSucceeds env)
    (htype : node.scheduler_id.type = .scheduler)
    (hnode : db.schedulers node.scheduler_id = some node)
    (hold : SchedProgrammed node.users node.toSchedParams db) :
    SchedulerSetAll env attr node db ↔ SchedulerSetOk env attr node db := by
  by_cases hacc : SchedulerSetAccepted env attr node db
  swap
  · obtain ⟨hhws, hscheds, hsame⟩ := schedulerAttributeSet_refused htype hnode hacc
    have hleft : SchedProgrammed node.users node.toSchedParams
        (schedulerAttributeSet env node.scheduler_id attr db).2 := by
      intro user o ho
      rw [hhws]
      exact hold user o ho
    refine iff_of_true ⟨fun hok => ?_, fun _ => ⟨hleft, ?_⟩⟩ fun h => absurd h hacc
    · rw [hsame hok, hscheds]
      exact ⟨hleft, hnode⟩
    · rw [hscheds]
      exact hnode
  obtain ⟨at_, hath, hatlog, hrc, hhws, hstored⟩ :=
    schedulerAttributeSet_accepted hhw htype hnode hacc
  have hold' : SchedProgrammed node.users node.toSchedParams at_ := by
    intro user o ho
    rw [hath]
    exact hold user o ho
  obtain ⟨htaken, hdone, hback⟩ :=
    @schedulerReapply_all env hrevert node (schedulerNew attr node) at_ hold'
  rw [hatlog] at htaken
  rw [← hrc] at htaken hdone hback
  have hhave : ∀ params, SchedProgrammed node.users params
        (schedulerReapply env node (schedulerNew attr node) at_).2 →
      SchedProgrammed node.users params (schedulerAttributeSet env node.scheduler_id attr db).2 := by
    intro params h user o ho
    rw [hhws]
    exact h user o ho
  constructor
  · rintro ⟨-, hfailed⟩ -
    by_cases hok : (schedulerAttributeSet env node.scheduler_id attr db).1 = .success
    · exact .inr (htaken.mp hok)
    -- the new value is stored, so it is to be the old one
    have hsame : schedulerNew attr node = node :=
      Option.some.inj (hstored.symm.trans (hfailed hok).2)
    refine .inl ((schedulerNew_eq hsame).resolve_left ?_)
    rw [hacc.2.1]
    simp
  · intro hcond
    refine ⟨fun hok => ⟨hhave _ (hdone hok), hstored⟩, fun hbad => ⟨hhave _ (hback hbad), ?_⟩⟩
    rcases hcond hacc with ⟨id, hattr⟩ | hall
    · rw [hstored, hattr]
      rfl
    · exact absurd (htaken.mpr hall) hbad

def schedOnThree : Scheduler :=
  { schedulerNodeInit .good with
    scheduler_id := ⟨.scheduler, 5⟩
    users := fun user =>
      match user with
      | .queue => [⟨.queue, 1⟩]
      | .schedGroup => [⟨.schedulerGroup, 2⟩]
      | .port => [⟨.port, 3⟩] }

def schedOnThreeDb : SchedDb :=
  { SchedDb.initial ⟨.scheduler, 1⟩ with
    schedulers := fun o => if o = ⟨.scheduler, 5⟩ then some schedOnThree else none
    hw_scheduler := fun _ => some schedOnThree.toSchedParams }

theorem schedulerSetAll_iff_weight :
    SchedulerSetAll .good (.schedulingWeight 9) schedOnThree schedOnThreeDb := by
  refine (schedulerSetAll_iff rfl (fun _ _ _ _ => rfl) rfl rfl fun _ _ _ => rfl).mpr fun _ => ?_
  exact .inr ⟨rfl, rfl, rfl, trivial⟩

def portRefuses : Outside SchedCall
  | _, .schedulerSet ⟨.port, _⟩ _ _ false => .failure
  | _, _ => .success

/-- The objects have the old weight again, and the scheduler has the new one: the same set once more
is a duplicate. -/
theorem not_schedulerSetAll_port :
    ¬ (∀ env attr node db, env.scheduler_is_hw_object = false → RevertSucceeds env →
      node.scheduler_id.type = .scheduler → db.schedulers node.scheduler_id = some node →
      SchedProgrammed node.users node.toSchedParams db → SchedulerSetAll env attr node db) := by
  intro h
  have hrevert : RevertSucceeds (.answers portRefuses) := by
    intro log o old new
    obtain ⟨type, id⟩ := o
    cases type <;> rfl
  have hall := h (.answers portRefuses) (.schedulingWeight 9) schedOnThree schedOnThreeDb rfl hrevert
    rfl rfl (fun _ _ _ => rfl)
  have hstored := (hall.failed (by decide)).2
  exact absurd (congrArg (fun node => node.map fun node => node.weight) hstored) (by decide)

end OpxSai
