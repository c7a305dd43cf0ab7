import OpxSai.Qos.BufferLists

/-!
# A profile that is set, and its users

A new value goes to the users of a profile, one list after the other, and then to the profile. Where a
user fails, the walks are made again with the old value, each up to the user where it stopped.

* `bufferProfileAttrSet_allOrNothing` — the value is everywhere, or nowhere.
-/

namespace OpxSai

open QosDb
variable {db' db : QosDb} {done : List Oid} {profile_id stop : Oid} {users : List Oid}

/-! ## Property -/

/-- The users that an attribute is for. The threshold mode is for the profile alone. -/
def BufferProfile.appliesTo (profile : BufferProfile) : ProfileAttrId → List Oid
  | .thresholdMode => []
  | .unknown _ => []
  | .xoffTh => profile.pgs
  | .xonTh => profile.pgs
  | _ => profile.ports ++ profile.queues ++ profile.pgs

/-- The users are different objects, and none of them is the null object. -/
structure BufferProfile.UsersOk (profile : BufferProfile) : Prop where
  nodup : (profile.ports ++ profile.queues ++ profile.pgs).Nodup
  no_null : .null ∉ profile.ports ++ profile.queues ++ profile.pgs

variable {profile : BufferProfile}

variable (env : QosEnv) (pool_id : Oid) (size : BitVec 32) (is_add : Bool)

/-- The users have in the NPU what the profile has. -/
def HwFollowsProfile (profile : BufferProfile) (db : QosDb) : Prop :=
  ∀ id, ∀ o ∈ profile.appliesTo id, db.hw_profile o id = some (profileValue profile id)

/-- The calls that give a value to some users, each with its answer. -/
def profileCalls (profile_id : Oid) (old_attr attr : ProfileAttr) (back : Bool) (done : List Oid) :
    CallLog QosCall :=
  done.map fun o => (.profileAttrSet o profile_id old_attr attr back, .success)

/-- What a failed set leaves in the log: the users that took the new value took the old one again, each
of them once. -/
def RestoredOnce (profile_id : Oid) (old_attr attr : ProfileAttr) (log log' : CallLog QosCall) : Prop :=
  ∃ before done failed, done.Nodup ∧
    (∀ e ∈ before, ∀ o old_attr attr back, e.1 ≠ .profileAttrSet o profile_id old_attr attr back) ∧
    (∀ e ∈ failed, e.2 ≠ .success) ∧
    log' = log ++ before ++ profileCalls profile_id old_attr attr false done ++ failed ++
      profileCalls profile_id attr old_attr true done

/-! ## One list -/

theorem UsersLinked.usersOk (h : UsersLinked db) (hprofile : db.profileNodeGet profile_id = some profile) :
    profile.UsersOk := by
  have hport := h.users profile_id profile hprofile .port
  have hqueue := h.users profile_id profile hprofile .queue
  have hpg := h.users profile_id profile hprofile .ingressPriorityGroup
  have hporttype : ∀ o ∈ profile.ports, o.type = .port := fun o ho => ((hport.2 o).mp ho).1
  have hqueuetype : ∀ o ∈ profile.queues, o.type = .queue := fun o ho => ((hqueue.2 o).mp ho).1
  have hpgtype : ∀ o ∈ profile.pgs, o.type = .ingressPriorityGroup := fun o ho => ((hpg.2 o).mp ho).1
  constructor
  · rw [List.nodup_append, List.nodup_append]
    refine ⟨⟨hport.1, hqueue.1, ?_⟩, hpg.1, ?_⟩
    · rintro a ha b hb rfl
      have heq := (hporttype a ha).symm.trans (hqueuetype a hb)
      cases heq
    · rintro a ha b hb rfl
      have hb' := hpgtype a hb
      rcases List.mem_append.mp ha with ha' | ha'
      · have heq := (hporttype a ha').symm.trans hb'
        cases heq
      · have heq := (hqueuetype a ha').symm.trans hb'
        cases heq
  · intro hnull
    rcases List.mem_append.mp hnull with hnull | hnull
    · rcases List.mem_append.mp hnull with hnull | hnull
      · exact absurd (hporttype _ hnull) (by decide)
      · exact absurd (hqueuetype _ hnull) (by decide)
    · exact absurd (hpgtype _ hnull) (by decide)

/-- Some users took a value. -/
structure UsersWalked (profile_id : Oid) (old_attr attr : ProfileAttr) (back : Bool) (done : List Oid)
    (db db' : QosDb) : Prop where
  hw : ∀ o id, db'.hw_profile o id =
    if o ∈ done ∧ id = attr.id then some attr else db.hw_profile o id
  log : db'.outside_log = db.outside_log ++ profileCalls profile_id old_attr attr back done

namespace UsersWalked

variable {old_attr attr : ProfileAttr} {back : Bool}

theorem nil (hhw : db'.hw_profile = db.hw_profile) (hlog : db'.outside_log = db.outside_log) :
    UsersWalked profile_id old_attr attr back [] db db' := by
  refine ⟨fun o id => ?_, ?_⟩
  · rw [if_neg (by simp), hhw]
  · rw [hlog]
    exact (List.append_nil _).symm

theorem trans {done₁ done₂} {db₁ db₂ db₃}
    (h : UsersWalked profile_id old_attr attr back done₁ db₁ db₂)
    (h' : UsersWalked profile_id old_attr attr back done₂ db₂ db₃) :
    UsersWalked profile_id old_attr attr back (done₁ ++ done₂) db₁ db₃ := by
  refine ⟨fun o id => ?_, ?_⟩
  · rw [h'.hw, h.hw]
    by_cases h₂ : o ∈ done₂ ∧ id = attr.id
    · rw [if_pos h₂, if_pos ⟨List.mem_append_right _ h₂.1, h₂.2⟩]
    rw [if_neg h₂]
    refine if_congr ?_ rfl rfl
    rw [List.mem_append]
    constructor
    · rintro ⟨h₁, hid⟩
      exact ⟨.inl h₁, hid⟩
    · rintro ⟨h₁ | h₁, hid⟩
      · exact ⟨h₁, hid⟩
      · exact absurd ⟨h₁, hid⟩ h₂
  · rw [h'.log, h.log, profileCalls, profileCalls, profileCalls, List.map_append, List.append_assoc]

theorem one {env} {o}
    (h : (db.call env (.profileAttrSet o profile_id old_attr attr back)).1 = .success) :
    UsersWalked profile_id old_attr attr back [o] db
      (db.call env (.profileAttrSet o profile_id old_attr attr back)).2 := by
  refine ⟨fun o' id => ?_, ?_⟩
  · rw [call_ok db env _ h]
    show (if o' = o ∧ id = attr.id then some attr else db.hw_profile o' id) = _
    simp only [List.mem_singleton]
  · rw [call_outside_log, h]
    rfl

end UsersWalked

/-- The calls that failed leave the NPU as it was. -/
structure WalkFailed (failed : CallLog QosCall) (db db' : QosDb) : Prop where
  hw : db'.hw_profile = db.hw_profile
  log : db'.outside_log = db.outside_log ++ failed
  failed : ∀ e ∈ failed, e.2 ≠ .success

theorem WalkFailed.nil (hhw : db'.hw_profile = db.hw_profile) (hlog : db'.outside_log = db.outside_log) :
    WalkFailed [] db db' := by
  refine ⟨hhw, ?_, fun e he => absurd he (by simp)⟩
  rw [hlog, List.append_nil]

/-- A list of which a walk has done the first part: it was not begun, or it stopped behind that part. -/
def WalkedTo (users : List Oid) (update : Bool) (stop : Oid) (done : List Oid) : Prop :=
  (update = false ∧ done = []) ∨
  (update = true ∧ ∃ rest, users = done ++ rest ∧ stop ∉ done ∧
    (rest = [] ∨ ∃ rest', rest = stop :: rest'))

section Walk

variable (env : QosEnv) (profile_id : Oid) (old_attr attr : ProfileAttr)

/-- **One list takes the new value**, all of it or up to a user that fails. -/
theorem updateBufferProfileUsers_forward (users) : .null ∉ users → ∀ db,
    let x := updateBufferProfileUsers env profile_id old_attr attr false users .null db
    (x.1 = .success ∧ x.2.1 = .null ∧
      UsersWalked profile_id old_attr attr false users db x.2.2) ∨
    (x.1 ≠ .success ∧ ∃ done rest failed mid, users = done ++ x.2.1 :: rest ∧
      UsersWalked profile_id old_attr attr false done db mid ∧ WalkFailed failed mid x.2.2) := by
  induction users with
  | nil => exact fun _ db => .inl ⟨rfl, rfl, .nil rfl rfl⟩
  | cons user users ih =>
    intro hnull db x
    obtain ⟨hne, hnull⟩ := List.ne_and_not_mem_of_not_mem_cons hnull
    have hx : updateBufferProfileUsers env profile_id old_attr attr false (user :: users) .null db = x :=
      rfl
    clear_value x
    simp only [updateBufferProfileUsers] at hx
    rw [if_neg (Ne.symm hne)] at hx
    by_cases hok : (db.call env (.profileAttrSet user profile_id old_attr attr false)).1 = .success
    · rw [if_ok hok] at hx
      have hone := UsersWalked.one hok
      generalize (db.call _ _).2 = set at hx hone
      subst hx
      rcases ih hnull set with ⟨hsuccess, hstop, hwalked⟩ | ⟨hfail, done, rest, failed, mid, heq, hwalked, hfailed⟩
      · exact .inl ⟨hsuccess, hstop, hone.trans hwalked⟩
      · refine .inr ⟨hfail, user :: done, rest, failed, mid, ?_, hone.trans hwalked, hfailed⟩
        rw [List.cons_append, ← heq]
    · rw [if_pos hok] at hx
      have hhw := (call_failed_hw db env _ hok).2
      have hlog := call_outside_log db env (.profileAttrSet user profile_id old_attr attr false)
      generalize db.call _ _ = set at *
      subst hx
      refine .inr ⟨hok, [], users, [(.profileAttrSet user profile_id old_attr attr false, set.1)], db,
        rfl, .nil rfl rfl, hhw, hlog, fun e he => ?_⟩
      rw [List.mem_singleton.mp he]
      exact hok

/-- **One list takes the old value back**, up to the user where the walk stopped. -/
theorem updateBufferProfileUsers_back
    (hback : ∀ log o old_attr attr, env.outside log (.profileAttrSet o profile_id old_attr attr true) =
      .success) :
    ∀ rest stop db, stop ∉ done → (rest = [] ∨ ∃ rest', rest = stop :: rest') →
    UsersWalked profile_id old_attr attr true done db
      (updateBufferProfileUsers env profile_id old_attr attr true (done ++ rest) stop db).2.2 := by
  induction done with
  | nil =>
    intro rest stop db _ hrest
    rcases hrest with rfl | ⟨rest', rfl⟩
    · exact .nil rfl rfl
    · simp only [List.nil_append, updateBufferProfileUsers, if_true]
      exact .nil rfl rfl
  | cons user done ih =>
    intro rest stop db hstop hrest
    obtain ⟨hne, hstop⟩ := List.ne_and_not_mem_of_not_mem_cons hstop
    have hok : (db.call env (.profileAttrSet user profile_id old_attr attr true)).1 = .success :=
      hback db.outside_log user old_attr attr
    simp only [List.cons_append, updateBufferProfileUsers]
    rw [if_neg (Ne.symm hne), if_ok hok]
    exact (UsersWalked.one hok).trans (ih rest stop _ hstop hrest)

end Walk

/-! ## The three lists -/

/-- How far the three walks came. -/
structure ListsWalkedTo (profile : BufferProfile) (at_ : ProfileUpdate) (ports queues pgs : List Oid) :
    Prop where
  ports : WalkedTo profile.ports at_.port_update at_.port_id ports
  queues : WalkedTo profile.queues at_.queue_update at_.queue_id queues
  pgs : WalkedTo profile.pgs at_.pg_update at_.pg_id pgs

theorem WalkedTo.all (hnull : .null ∉ users) (hstop : stop = .null) :
    WalkedTo users true stop users := by
  subst hstop
  exact .inr ⟨rfl, [], (List.append_nil users).symm, hnull, .inl rfl⟩

theorem WalkedTo.upto {rest} (hnodup : users.Nodup) (heq : users = done ++ stop :: rest) :
    WalkedTo users true stop done := by
  refine .inr ⟨rfl, stop :: rest, heq, ?_, .inr ⟨rest, rfl⟩⟩
  rw [heq] at hnodup
  intro hin
  exact (List.nodup_append.mp hnodup).2.2 stop hin stop (List.mem_cons_self ..) rfl

theorem WalkedTo.none (users) (stop) : WalkedTo users false stop [] :=
  .inl ⟨rfl, rfl⟩

theorem WalkedTo.sublist {update : Bool} (h : WalkedTo users update stop done) :
    done.Sublist users := by
  rcases h with ⟨-, rfl⟩ | ⟨-, rest, rfl, -⟩
  · exact List.nil_sublist users
  · exact List.sublist_append_left done rest

theorem updateBufferProfileNode_hw (ptr : Nat) (attr_list) : ∀ attr_idx db,
    (updateBufferProfileNode ptr attr_idx attr_list db).2.hw_profile = db.hw_profile := by
  induction attr_list with
  | nil => exact fun _ _ => rfl
  | cons attr attr_list ih =>
    intro attr_idx db
    have hstore : (storeProfileAttr ptr attr db).hw_profile = db.hw_profile := by
      cases attr with
      | poolId oid =>
        simp only [storeProfileAttr, moveBufferPool]
        split <;> rfl
      | _ => rfl
    rcases updateBufferProfileNode_cons ptr _ _ _ db with
      ⟨-, heq⟩ | ⟨-, rc, -, heq⟩
    · rw [heq, ih, hstore]
    · rw [heq]

section Lists

variable (env : QosEnv) (profile : BufferProfile) (old_attr attr : ProfileAttr)

theorem updateBufferProfilePortsQueues_walk (husers : profile.UsersOk) (db) :
    let first := updateBufferProfilePortsQueues env profile old_attr attr
      ⟨.success, .null, .null, .null, false, false, false, db⟩
    first.pg_update = false ∧ first.pg_id = .null ∧
    ∃ ports queues, WalkedTo profile.ports first.port_update first.port_id ports ∧
      WalkedTo profile.queues first.queue_update first.queue_id queues ∧
      (attr.id.isPfc = true → ports = [] ∧ queues = []) ∧
      ((first.rc = .success ∧ UsersWalked profile.profile_id old_attr attr false (ports ++ queues) db
          first.db ∧ (attr.id.isPfc = false → ports = profile.ports ∧ queues = profile.queues)) ∨
        (first.rc ≠ .success ∧ attr.id.isPfc = false ∧ ∃ failed mid,
          UsersWalked profile.profile_id old_attr attr false (ports ++ queues) db mid ∧
          WalkFailed failed mid first.db)) := by
  intro first
  have hfirst : updateBufferProfilePortsQueues env profile old_attr attr
      ⟨.success, .null, .null, .null, false, false, false, db⟩ = first := rfl
  clear_value first
  obtain ⟨hnodup, hnull⟩ := husers
  simp only [List.mem_append, not_or] at hnull
  obtain ⟨⟨hnullports, hnullqueues⟩, -⟩ := hnull
  have hportsnodup : profile.ports.Nodup := hnodup.of_append_left.of_append_left
  have hqueuesnodup : profile.queues.Nodup := hnodup.of_append_left.of_append_right
  simp only [updateBufferProfilePortsQueues] at hfirst
  by_cases hpfc : attr.id.isPfc = true
  · rw [if_pos hpfc] at hfirst
    subst hfirst
    refine ⟨rfl, rfl, [], [], .none _ _, .none _ _, fun _ => ⟨rfl, rfl⟩, .inl ⟨rfl, .nil rfl rfl, ?_⟩⟩
    intro hno
    rw [hpfc] at hno
    cases hno
  rw [if_neg hpfc] at hfirst
  have hpfc' : attr.id.isPfc = false := Bool.eq_false_iff.mpr hpfc
  have hfirstwalk := updateBufferProfileUsers_forward env profile.profile_id old_attr attr profile.ports
    hnullports db
  have hsecondwalk := updateBufferProfileUsers_forward env profile.profile_id old_attr attr
    profile.queues hnullqueues
    (updateBufferProfileUsers env profile.profile_id old_attr attr false profile.ports .null db).2.2
  split at hfirst
  next hfail =>
    subst hfirst
    obtain ⟨-, done, rest, failed, mid, heq, hwalked, hfailed⟩ :=
      hfirstwalk.resolve_left fun hno => hfail hno.1
    refine ⟨rfl, rfl, done, [], .upto hportsnodup heq, .none _ _, fun hyes => absurd hyes hpfc,
      .inr ⟨hfail, hpfc', failed, mid, ?_, hfailed⟩⟩
    rw [List.append_nil]
    exact hwalked
  rename_i hok
  subst hfirst
  obtain ⟨-, hstop, hwalked⟩ := hfirstwalk.resolve_right fun hno => hok hno.1
  rcases hsecondwalk with
    ⟨hok', hstop', hwalked'⟩ | ⟨hfail', done', rest', failed', mid', heq', hwalked', hfailed'⟩
  · exact ⟨rfl, rfl, profile.ports, profile.queues, .all hnullports hstop, .all hnullqueues hstop',
      fun hyes => absurd hyes hpfc, .inl ⟨hok', hwalked.trans hwalked', fun _ => ⟨rfl, rfl⟩⟩⟩
  · exact ⟨rfl, rfl, profile.ports, done', .all hnullports hstop, .upto hqueuesnodup heq',
      fun hyes => absurd hyes hpfc,
      .inr ⟨hfail', hpfc', failed', mid', hwalked.trans hwalked', hfailed'⟩⟩

/-- **The new value goes** to all users that it is for, or up to a call that fails. -/
theorem updateBufferProfileForward_walk (husers : profile.UsersOk)
    (hknown : ∀ id, attr.id ≠ .unknown id) {ptr : Nat} :
    let at_ := updateBufferProfileForward env ptr profile old_attr attr db
    (at_.rc = .success ∧
      UsersWalked profile.profile_id old_attr attr false (profile.appliesTo attr.id) db at_.db) ∨
    (at_.rc ≠ .success ∧ ∃ ports queues pgs failed mid, ListsWalkedTo profile at_ ports queues pgs ∧
      (ports ++ queues ++ pgs).Sublist (profile.appliesTo attr.id) ∧
      UsersWalked profile.profile_id old_attr attr false (ports ++ queues ++ pgs) db mid ∧
      WalkFailed failed mid at_.db) := by
  intro at_
  have hat : updateBufferProfileForward env ptr profile old_attr attr db = at_ := rfl
  clear_value at_
  simp only [updateBufferProfileForward] at hat
  have hnodehw := updateBufferProfileNode_hw ptr [attr] 0
  have hnodelog := fun db => (updateBufferProfileNode_tree ptr [attr] 0 db).2
  split at hat
  next hmode =>
    rw [hmode]
    subst hat
    have hwalked : UsersWalked profile.profile_id old_attr attr false [] db
        (updateBufferProfileNode ptr 0 [attr] db).2 := .nil (hnodehw db) (hnodelog db)
    by_cases hok : (updateBufferProfileNode ptr 0 [attr] db).1 = .success
    · exact .inl ⟨hok, hwalked⟩
    · exact .inr ⟨hok, [], [], [], [], _, ⟨.none _ _, .none _ _, .none _ _⟩, List.Sublist.refl [],
        hwalked, .nil rfl rfl⟩
  rename_i hmode
  -- the users are ports and queues first, and then priority groups
  have happlies : ∀ ports queues, (attr.id.isPfc = true → ports = [] ∧ queues = []) →
      (attr.id.isPfc = false → ports = profile.ports ∧ queues = profile.queues) →
      profile.appliesTo attr.id = ports ++ queues ++ profile.pgs := by
    intro ports queues hyes hno
    cases hid : attr.id with
    | thresholdMode => exact absurd hid hmode
    | unknown id => exact absurd hid (hknown id)
    | xoffTh | xonTh =>
      obtain ⟨rfl, rfl⟩ := hyes (by rw [hid]; rfl)
      rfl
    | _ =>
      obtain ⟨rfl, rfl⟩ := hno (by rw [hid]; rfl)
      rfl
  obtain ⟨hpgupdate, hpgid, ports, queues, hports, hqueues, hpfc, hcase⟩ :=
    updateBufferProfilePortsQueues_walk env profile old_attr attr husers db
  generalize updateBufferProfilePortsQueues _ _ _ _ _ = first at *
  rcases hcase with ⟨hok, hwalked, hall⟩ | ⟨hfail, hno, failed, mid, hwalked, hfailed⟩
  swap
  · rw [if_pos hfail] at hat
    subst hat
    refine .inr ⟨hfail, ports, queues, [], failed, mid, ⟨hports, hqueues, ?_⟩, ?_, ?_, hfailed⟩
    · rw [hpgupdate]
      exact .none _ _
    · rw [happlies profile.ports profile.queues (fun hyes => by rw [hyes] at hno; cases hno)
        fun _ => ⟨rfl, rfl⟩]
      exact (hports.sublist.append hqueues.sublist).append (List.nil_sublist _)
    · rw [List.append_nil]
      exact hwalked
  rw [if_ok hok, hpgid] at hat
  have hnullpgs : .null ∉ profile.pgs := fun hin => husers.no_null (List.mem_append_right _ hin)
  have hlastwalk := updateBufferProfileUsers_forward env profile.profile_id old_attr attr profile.pgs
    hnullpgs first.db
  split at hat
  next hfail =>
    subst hat
    obtain ⟨-, done, rest, failed, mid, heq, hwalked', hfailed⟩ :=
      hlastwalk.resolve_left fun hno => hfail hno.1
    have hdone : WalkedTo profile.pgs true _ done := .upto husers.nodup.of_append_right heq
    refine .inr ⟨hfail, ports, queues, done, failed, mid, ⟨hports, hqueues, hdone⟩, ?_,
      hwalked.trans hwalked', hfailed⟩
    rw [happlies ports queues hpfc hall]
    exact (List.Sublist.refl _).append hdone.sublist
  next hok' =>
    subst hat
    obtain ⟨-, hstop, hwalked'⟩ := hlastwalk.resolve_right fun hno => hok' hno.1
    have htotal := (hwalked.trans hwalked').trans (.nil (hnodehw _) (hnodelog _))
    rw [List.append_nil] at htotal
    rw [happlies ports queues hpfc hall]
    by_cases hstored : (updateBufferProfileNode ptr 0 [attr] (updateBufferProfileUsers env
        profile.profile_id old_attr attr false profile.pgs .null first.db).2.2).1 = .success
    · exact .inl ⟨hstored, htotal⟩
    · exact .inr ⟨hstored, ports, queues, profile.pgs, [], _,
        ⟨hports, hqueues, .all hnullpgs hstop⟩, List.Sublist.refl _, htotal, .nil rfl rfl⟩

theorem updateBufferProfileBack_walk
    (hback : ∀ log o old_attr attr, env.outside log
      (.profileAttrSet o profile.profile_id old_attr attr true) = .success) {at_}
    {ports queues pgs} (h : ListsWalkedTo profile at_ ports queues pgs) :
    UsersWalked profile.profile_id attr old_attr true (ports ++ queues ++ pgs) at_.db
      (updateBufferProfileBack env profile old_attr attr at_) := by
  have hone : ∀ {users done : List Oid} {update stop}, WalkedTo users update stop done → ∀ db,
      UsersWalked profile.profile_id attr old_attr true done db (if update = true then
        (updateBufferProfileUsers env profile.profile_id attr old_attr true users stop db).2.2
        else db) := by
    intro users done update stop hto db
    rcases hto with ⟨rfl, rfl⟩ | ⟨rfl, rest, rfl, hstop, hrest⟩
    · rw [if_neg (by simp)]
      exact .nil rfl rfl
    rw [if_pos rfl]
    exact updateBufferProfileUsers_back env _ _ _ hback _ _ db
      hstop hrest
  have hports := hone h.ports at_.db
  have hqueues := hone h.queues (if at_.port_update = true then
    (updateBufferProfileUsers env profile.profile_id attr old_attr true profile.ports at_.port_id
      at_.db).2.2 else at_.db)
  exact (hports.trans hqueues).trans (hone h.pgs _)

/-- **The users take the new value**, or have the old one as before. -/
theorem updateBufferProfileObjects_hw (husers : profile.UsersOk)
    (hknown : ∀ id, attr.id ≠ .unknown id) (hid : old_attr.id = attr.id)
    (hback : ∀ log o old_attr attr, env.outside log
      (.profileAttrSet o profile.profile_id old_attr attr true) = .success) (ptr : Nat) (db)
    (hhw : ∀ o ∈ profile.appliesTo attr.id, db.hw_profile o attr.id = some old_attr) :
    let x := updateBufferProfileObjects env ptr profile old_attr attr db
    (x.1 = .success ∧
      UsersWalked profile.profile_id old_attr attr false (profile.appliesTo attr.id) db x.2) ∨
    (x.1 ≠ .success ∧ x.2.hw_profile = db.hw_profile ∧
      RestoredOnce profile.profile_id old_attr attr db.outside_log x.2.outside_log) := by
  intro x
  have hx : updateBufferProfileObjects env ptr profile old_attr attr db = x := rfl
  clear_value x
  simp only [updateBufferProfileObjects] at hx
  rcases updateBufferProfileForward_walk env _ _ _ husers hknown with
    ⟨hok, hwalked⟩ | ⟨hfail, ports, queues, pgs, failed, mid, hto, hsub, hwalked, hfailed⟩
  · rw [if_ok hok] at hx
    subst hx
    exact .inl ⟨hok, hwalked⟩
  · rw [if_pos hfail] at hx
    subst hx
    have hrestored := updateBufferProfileBack_walk env profile old_attr attr hback hto
    refine .inr ⟨hfail, ?_, [], ports ++ queues ++ pgs, failed, ?_, ?_, hfailed.failed, ?_⟩
    · funext o id
      rw [hrestored.hw, hfailed.hw, hwalked.hw, hid]
      by_cases hin : o ∈ ports ++ queues ++ pgs ∧ id = attr.id
      · rw [if_pos hin, hin.2, hhw o (hsub.subset hin.1)]
      · rw [if_neg hin, if_neg hin]
    · refine List.Nodup.sublist ?_ husers.nodup
      exact (hto.ports.sublist.append hto.queues.sublist).append hto.pgs.sublist
    · exact fun e he => absurd he (by simp)
    · rw [hrestored.log, hfailed.log, hwalked.log, List.append_nil]

end Lists

/-! ## The rest of a set -/

theorem bufferProfileAttributesValidate_hw (attr_list)
    (op_type) (db) :
    (bufferProfileAttributesValidate env attr_list op_type db).2.hw_profile = db.hw_profile := by
  simp only [bufferProfileAttributesValidate]
  split
  · rfl
  split
  · rfl
  split
  · by_cases hnames : namesPool attr_list = true
    · rw [if_pos hnames]
      split <;> rfl
    · rw [if_neg hnames]
      split <;> rfl
  · rfl

theorem bufferProfileAttrGetInternal_hw (profile_id) (ids) (db) :
    (bufferProfileAttrGetInternal env profile_id ids db).2.hw_profile = db.hw_profile ∧
    (bufferProfileAttrGetInternal env profile_id ids db).2.outside_log = db.outside_log := by
  simp only [bufferProfileAttrGetInternal]
  split
  · exact ⟨rfl, rfl⟩
  split
  · exact ⟨rfl, rfl⟩
  split <;> exact ⟨rfl, rfl⟩

theorem checkBufferSize_hw (attr) (profile) (db) :
    (checkBufferSize env attr profile db).2.hw_profile = db.hw_profile ∧
    ∃ before, (checkBufferSize env attr profile db).2.outside_log = db.outside_log ++ before ∧
      ∀ e ∈ before, ∀ o profile_id old_attr attr back,
        e.1 ≠ .profileAttrSet o profile_id old_attr attr back := by
  have hrefl : db.hw_profile = db.hw_profile ∧ ∃ before, db.outside_log = db.outside_log ++ before ∧
      ∀ e ∈ before, ∀ o profile_id old_attr attr back,
        e.1 ≠ .profileAttrSet o profile_id old_attr attr back :=
    ⟨rfl, [], (List.append_nil _).symm, fun e he => absurd he (by simp)⟩
  have hgrowth : ∀ u32, (checkBufferGrowth env profile u32 db).2.hw_profile = db.hw_profile ∧
      ∃ before, (checkBufferGrowth env profile u32 db).2.outside_log = db.outside_log ++ before ∧
        ∀ e ∈ before, ∀ o profile_id old_attr attr back,
          e.1 ≠ .profileAttrSet o profile_id old_attr attr back := by
    intro u32
    have hcall : (db.call env (.checkBufferSize profile.buffer_pool_id profile.profile_id u32)).2.hw_profile
        = db.hw_profile := call_hw_profile db env fun _ => rfl
    have hlog := call_outside_log db env
      (.checkBufferSize profile.buffer_pool_id profile.profile_id u32)
    simp only [checkBufferGrowth]
    split
    · exact hrefl
    split
    all_goals
      refine ⟨hcall, _, hlog, fun e he => ?_⟩
      rw [List.mem_singleton.mp he]
      simp
  cases attr with
  | poolId oid =>
    simp only [checkBufferSize]
    split <;> exact hrefl
  | bufferSize u32 =>
    simp only [checkBufferSize]
    split
    · exact hgrowth _
    · exact hrefl
  | xoffTh u32 =>
    simp only [checkBufferSize]
    split
    · exact hrefl
    split
    · exact hgrowth _
    · exact hrefl
  | _ => exact hrefl

theorem bufferPoolSizeRecalc_hw (db) :
    (bufferPoolSizeRecalc env pool_id size is_add db).2.hw_profile = db.hw_profile := by
  have hcall : ∀ (db : QosDb) attr,
      (db.call env (.poolAttrSet pool_id attr)).2.hw_profile = db.hw_profile :=
    fun db attr => call_hw_profile db env fun _ => rfl
  simp only [bufferPoolSizeRecalc]
  split
  · rfl
  split
  · rfl
  -- added or taken off, and kept or given back
  split <;> split <;> exact hcall _ _

theorem bufferPoolSizeRecalc_profiles (db) :
    (bufferPoolSizeRecalc env pool_id size is_add db).2.profiles = db.profiles ∧
    (bufferPoolSizeRecalc env pool_id size is_add db).2.profile_tree = db.profile_tree := by
  rcases bufferPoolSizeRecalc_cases env _ _ _ db with ⟨-, hsame⟩ | ⟨-, -, -, -, hsame⟩
  · exact ⟨hsame.profiles, hsame.profile_tree⟩
  · exact ⟨hsame.profiles, hsame.profile_tree⟩

theorem bufferProfileRecalc_kept (env) (attr) {pool_id} (old_pool_id)
    (buf_size : BitVec 32) (is_add : Bool) (db) :
    let db' := bufferProfileRecalc env attr old_pool_id pool_id buf_size is_add db
    db'.hw_profile = db.hw_profile ∧ db'.profiles = db.profiles ∧
      db'.profile_tree = db.profile_tree := by
  have hone : ∀ pool_id buf_size is_add db,
      (bufferPoolSizeRecalc env pool_id buf_size is_add db).2.hw_profile = db.hw_profile ∧
      (bufferPoolSizeRecalc env pool_id buf_size is_add db).2.profiles = db.profiles ∧
      (bufferPoolSizeRecalc env pool_id buf_size is_add db).2.profile_tree = db.profile_tree :=
    fun pool_id buf_size is_add db =>
      ⟨bufferPoolSizeRecalc_hw env _ _ _ db,
        bufferPoolSizeRecalc_profiles env _ _ _ db⟩
  cases attr with
  | poolId oid =>
    obtain ⟨hhw, hprofiles, htree⟩ := hone old_pool_id buf_size false db
    obtain ⟨hhw', hprofiles', htree'⟩ := hone oid buf_size true
      (bufferPoolSizeRecalc env old_pool_id buf_size false db).2
    exact ⟨hhw'.trans hhw, hprofiles'.trans hprofiles, htree'.trans htree⟩
  | bufferSize u32 => exact hone pool_id buf_size is_add db
  | xoffTh u32 => exact hone pool_id buf_size is_add db
  | _ => exact ⟨rfl, rfl, rfl⟩

theorem readBufferProfileNode_one {id} {old_attr} {rest}
    (h : readBufferProfileNode db profile 0 [id] = .ok (old_attr :: rest)) :
    old_attr.id = id ∧ (∀ n, id ≠ .unknown n) ∧
    (id ≠ .thresholdMode → old_attr = profileValue profile id) := by
  cases id with
  | thresholdMode =>
    simp only [readBufferProfileNode] at h
    split at h
    · have heq := Except.ok.inj h
      rw [← (List.cons.inj heq).1]
      exact ⟨rfl, fun _ => by simp, fun hno => absurd rfl hno⟩
    split at h
    · cases h
    have heq := Except.ok.inj h
    rw [← (List.cons.inj heq).1]
    exact ⟨rfl, fun _ => by simp, fun hno => absurd rfl hno⟩
  | unknown n => cases h
  | _ =>
    have heq := Except.ok.inj h
    rw [← (List.cons.inj heq).1]
    exact ⟨rfl, fun _ => by simp, fun _ => rfl⟩

theorem bufferProfileAttrSet_hw (hprofile : db.profileNodeGet profile_id = some profile)
    (husers : profile.UsersOk)
    (hhw : HwFollowsProfile profile db) (hback : ∀ log o old_attr attr, env.outside log
      (.profileAttrSet o profile.profile_id old_attr attr true) = .success) (attr) :
    let x := bufferProfileAttrSet env profile_id attr db
    (x.1 = .success ∧ ∀ o id, x.2.hw_profile o id =
      if o ∈ profile.appliesTo attr.id ∧ id = attr.id then some attr else db.hw_profile o id) ∨
    (x.1 ≠ .success ∧ x.2.hw_profile = db.hw_profile ∧
      ∃ old_attr, RestoredOnce profile.profile_id old_attr attr db.outside_log x.2.outside_log) := by
  -- a set that ends before the walks restores nothing
  have hquiet : ∀ x : Status × QosDb, x.1 ≠ .success → x.2.hw_profile = db.hw_profile →
      (∃ before, x.2.outside_log = db.outside_log ++ before ∧
        ∀ e ∈ before, ∀ o profile_id old_attr attr back,
          e.1 ≠ .profileAttrSet o profile_id old_attr attr back) →
      x.1 ≠ .success ∧ x.2.hw_profile = db.hw_profile ∧
        ∃ old_attr, RestoredOnce profile.profile_id old_attr attr db.outside_log x.2.outside_log := by
    intro x hfail hkept hlog
    obtain ⟨before, hlog, hbefore⟩ := hlog
    refine ⟨hfail, hkept, attr, before, [], [], List.nodup_nil, ?_, ?_, ?_⟩
    · exact fun e he o old_attr attr back => hbefore e he o profile.profile_id old_attr attr back
    · exact fun e he => absurd he (by simp)
    · simp [hlog, profileCalls]
  have hnolog : ∀ log : CallLog QosCall, log = db.outside_log →
      ∃ before, log = db.outside_log ++ before ∧ ∀ e ∈ before, ∀ o profile_id old_attr attr back,
        e.1 ≠ .profileAttrSet o profile_id old_attr attr back := by
    intro log hlog
    exact ⟨[], by rw [hlog, List.append_nil], fun e he => absurd he (by simp)⟩
  intro x
  have hx : bufferProfileAttrSet env profile_id attr db = x := rfl
  clear_value x
  simp only [bufferProfileAttrSet] at hx
  obtain ⟨hvalid, hvalidlog⟩ := bufferProfileAttributesValidate_trees env [attr] .set db
  have hvalidhw := bufferProfileAttributesValidate_hw env [attr] .set db
  generalize bufferProfileAttributesValidate _ _ _ _ = valid at hx hvalid hvalidlog hvalidhw
  split at hx
  next hfail =>
    subst hx
    exact .inr (hquiet _ hfail hvalidhw (hnolog _ hvalidlog))
  obtain ⟨hgothw, hgotlog⟩ := bufferProfileAttrGetInternal_hw env profile_id [attr.id] valid.2.lock
  have hgottrees := bufferProfileAttrGetInternal_trees env profile_id [attr.id] valid.2.lock
  have hlocktrees : TreesSame db valid.2.lock :=
    hvalid.trans ⟨rfl, rfl, rfl, rfl, rfl, rfl, rfl, rfl, rfl⟩
  have hlockhw : valid.2.lock.hw_profile = db.hw_profile := hvalidhw
  have hlocklog : valid.2.lock.outside_log = db.outside_log := hvalidlog
  generalize valid.2.lock = locked at hx hgothw hgotlog hgottrees hlocktrees hlockhw hlocklog
  have hread : ∀ old_attr rest, (bufferProfileAttrGetInternal env profile_id [attr.id] locked).1 =
      .ok (old_attr :: rest) → readBufferProfileNode locked.access profile 0 [attr.id] =
      .ok (old_attr :: rest) := by
    intro old_attr rest hok
    simp only [bufferProfileAttrGetInternal] at hok
    rw [if_neg (by simp)] at hok
    split at hok
    · cases hok
    split at hok
    · cases hok
    rename_i profile' hprofile'
    have hsame : locked.access.profileNodeGet profile_id = some profile :=
      ((hlocktrees.trans (.access locked)).profileNodeGet profile_id).trans hprofile
    obtain rfl := Option.some.inj (hprofile'.symm.trans hsame)
    exact hok
  have herror : ∀ rc, (bufferProfileAttrGetInternal env profile_id [attr.id] locked).1 = .error rc →
      rc ≠ .success := by
    intro rc hrc
    exact bufferProfileAttrGetInternal_error hrc
  generalize bufferProfileAttrGetInternal _ _ _ _ = got at *
  split at hx
  next rc hrc =>
    subst hx
    exact .inr (hquiet _ (herror rc hrc) (hgothw.trans hlockhw) (hnolog _ (hgotlog.trans hlocklog)))
  · subst hx
    exact .inr (hquiet _ (by simp) (hgothw.trans hlockhw) (hnolog _ (hgotlog.trans hlocklog)))
  rename_i old_attr rest hok
  obtain ⟨hid, hknown, hold⟩ := readBufferProfileNode_one (hread old_attr rest hok)
  have hstarttrees : TreesSame db got.2.access := (hlocktrees.trans hgottrees).trans (.access _)
  have hstarthw : got.2.access.hw_profile = db.hw_profile := hgothw.trans hlockhw
  have hstartlog : got.2.access.outside_log = db.outside_log := hgotlog.trans hlocklog
  generalize got.2.access = start at hx hstarttrees hstarthw hstartlog
  simp only [bufferProfileAttrSetLocked] at hx
  split at hx
  swap
  · subst hx
    exact .inr (hquiet _ (by simp) hstarthw (hnolog _ hstartlog))
  rename_i ptr profile' _ hprofile'
  have hsame : start.profileNodeGet profile_id = some profile :=
    (hstarttrees.profileNodeGet profile_id).trans hprofile
  obtain rfl := Option.some.inj (hprofile'.symm.trans hsame)
  split at hx
  next hfail =>
    subst hx
    exact .inr (hquiet _ hfail hstarthw (hnolog _ hstartlog))
  obtain ⟨hcheckhw, before, hchecklog, hbefore⟩ := checkBufferSize_hw env attr profile' start
  rw [hstarthw] at hcheckhw
  rw [hstartlog] at hchecklog
  split at hx
  next rc hrc =>
    subst hx
    exact .inr (hquiet _ (checkBufferSize_error hrc) hcheckhw ⟨before, hchecklog, hbefore⟩)
  rename_i buf_size is_add hsize
  have hfollows : ∀ o ∈ profile'.appliesTo attr.id,
      (checkBufferSize env attr profile' start).2.hw_profile o attr.id = some old_attr := by
    intro o ho
    rw [hcheckhw, hhw attr.id o ho, hold]
    intro hmode
    rw [hmode] at ho
    simp [BufferProfile.appliesTo] at ho
  have hobjects := updateBufferProfileObjects_hw env profile' old_attr attr husers hknown hid hback ptr
    (checkBufferSize env attr profile' start).2 hfollows
  generalize updateBufferProfileObjects _ _ _ _ _ _ = updated at hx hobjects
  rcases hobjects with ⟨hdone, hwalked⟩ | ⟨hfail, hkept, before', done, failed, hnodup, hbefore', hfailed, hlog⟩
  · rw [if_ok hdone] at hx
    subst hx
    refine .inl ⟨rfl, fun o id => ?_⟩
    rw [← hcheckhw, ← hwalked.hw]
    exact congrFun (congrFun (bufferProfileRecalc_kept env attr profile'.buffer_pool_id buf_size is_add
      updated.2).1 o) id
  rw [if_pos hfail] at hx
  subst hx
  refine .inr ⟨hfail, hkept.trans hcheckhw, old_attr, before ++ before', done, failed, hnodup, ?_,
    hfailed, ?_⟩
  · intro e he o old_attr' attr' back
    rcases List.mem_append.mp he with he | he
    · exact hbefore e he o profile'.profile_id old_attr' attr' back
    · exact hbefore' e he o old_attr' attr' back
  · show updated.2.outside_log = _
    rw [hlog, hchecklog, List.append_assoc db.outside_log before before']

/-! ## All or nothing -/

theorem profileValue_withAttr (profile : BufferProfile) (attr : ProfileAttr) :
    profileValue (profile.withAttr attr) attr.id = attr := by
  cases attr <;> rfl

theorem bufferProfileAttrSet_node (env)
    (hprofile : db.profileNodeGet profile_id = some profile) (attr) :
    let x := bufferProfileAttrSet env profile_id attr db
    (x.1 = .success ∧ x.2.profileNodeGet profile_id = some (profile.withAttr attr)) ∨
    (x.1 ≠ .success ∧ x.2.profileNodeGet profile_id = some profile) := by
  intro x
  rcases bufferProfileAttrSet_cases env _ _ db with
    ⟨hfail, hsame⟩ | ⟨hok, ptr, profile', buf_size, is_add, checked, stored, hset⟩
  · exact .inr ⟨hfail, (hsame.profileNodeGet _).trans hprofile⟩
  refine .inl ⟨hok, ?_⟩
  have hget : db.profiles.get ptr = some profile := by
    unfold profileNodeGet at hprofile
    rw [hset.tree] at hprofile
    exact hprofile
  obtain rfl := Option.some.inj (hset.node.symm.trans hget)
  have hstored : stored.profiles.get ptr = some profile' := by rw [hset.users.profiles, hget]
  rw [hset.recalc.profileNodeGet]
  obtain ⟨-, hprofiles, htree⟩ := bufferProfileRecalc_kept env _ _ _ _ _
  unfold profileNodeGet
  rw [hprofiles, htree, (updateBufferProfileNode_tree ptr _ 0 _).1, hset.users.profile_tree,
    hset.tree, Option.bind_some]
  rcases updateBufferProfileNode_cons ptr 0 _ [] _ with ⟨-, heq⟩ | ⟨-, rc, hrc, heq⟩
  · rw [heq]
    exact storeProfileAttr_get _ hstored
  have hupdate := hset.update
  rw [heq] at hupdate
  exact absurd hupdate hrc

/-- **All or nothing**: a set that succeeds leaves the new value in the profile and in the NPU for
every user that the attribute is for. A set that fails leaves the profile and the NPU as they were,
and every user that took the new value has taken the old one back once. -/
theorem bufferProfileAttrSet_allOrNothing {profile_id : Oid} {profile : BufferProfile}
    {db : QosDb} (hprofile : db.profileNodeGet profile_id = some profile) (husers : profile.UsersOk)
    (hhw : HwFollowsProfile profile db)
    (hback : ∀ log o old_attr attr, env.outside log
      (.profileAttrSet o profile.profile_id old_attr attr true) = .success) (attr : ProfileAttr) :
    let x := bufferProfileAttrSet env profile_id attr db
    (x.1 = .success →
      x.2.profileNodeGet profile_id = some (profile.withAttr attr) ∧
      profileValue (profile.withAttr attr) attr.id = attr ∧
      ∀ o id, x.2.hw_profile o id =
        if o ∈ profile.appliesTo attr.id ∧ id = attr.id then some attr else db.hw_profile o id) ∧
    (x.1 ≠ .success →
      x.2.profileNodeGet profile_id = some profile ∧ x.2.hw_profile = db.hw_profile ∧
      ∃ old_attr, RestoredOnce profile.profile_id old_attr attr db.outside_log x.2.outside_log) := by
  intro x
  have hnode := bufferProfileAttrSet_node env hprofile attr
  have hvalues := bufferProfileAttrSet_hw env hprofile husers hhw hback attr
  constructor
  · intro hok
    obtain ⟨-, hget⟩ := hnode.resolve_right fun hno => hno.1 hok
    obtain ⟨-, hnew⟩ := hvalues.resolve_right fun hno => hno.1 hok
    exact ⟨hget, profileValue_withAttr profile attr, hnew⟩
  · intro hfail
    obtain ⟨-, hget⟩ := hnode.resolve_left fun hno => hfail hno.1
    obtain ⟨-, hkept, hrestored⟩ := hvalues.resolve_left fun hno => hfail hno.1
    exact ⟨hget, hkept, hrestored⟩

def portAndGroup : QosDb :=
  let db₀ := { QosDb.initial with
    ports := fun o => if o = ⟨.port, 1⟩ then some ⟨.null⟩ else none
    pgs := fun o => if o = ⟨.ingressPriorityGroup, 2⟩ then some ⟨.null⟩ else none }
  let db₁ := bufferStep ⟨.good 3, .createPool [.size 100]⟩ db₀
  let db₂ := bufferStep ⟨.good 4, .createProfile [.poolId ⟨.bufferPool, 3⟩, .bufferSize 10,
    .sharedDynamicTh 1]⟩ db₁
  let db₃ := bufferStep ⟨.good 0, .updateUser ⟨.port, 1⟩ ⟨.bufferProfile, 4⟩⟩ db₂
  bufferStep ⟨.good 0, .updateUser ⟨.ingressPriorityGroup, 2⟩ ⟨.bufferProfile, 4⟩⟩ db₃

def portAndGroupProfile : BufferProfile :=
  { bufferProfileInit with
    profile_id := ⟨.bufferProfile, 4⟩
    buffer_pool_id := ⟨.bufferPool, 3⟩
    size := 10
    dynamic_th := 1
    num_ref := 2
    ports := [⟨.port, 1⟩]
    pgs := [⟨.ingressPriorityGroup, 2⟩] }

def noGroupValue : Outside QosCall := fun _ c =>
  match c with
  | .profileAttrSet o _ _ _ false =>
    if o.type = .ingressPriorityGroup then .failure else .success
  | _ => .success

/-- The priority group refuses the new size, and the port has the old one again. -/
theorem bufferProfileAttrSet_allOrNothing_group :
    let x := bufferProfileAttrSet (.answers noGroupValue 0) ⟨.bufferProfile, 4⟩ (.bufferSize 20)
      portAndGroup
    x.1 = .failure ∧ x.2.profileNodeGet ⟨.bufferProfile, 4⟩ = some portAndGroupProfile ∧
    x.2.hw_profile = portAndGroup.hw_profile ∧
    ∃ old_attr, RestoredOnce ⟨.bufferProfile, 4⟩ old_attr (.bufferSize 20) portAndGroup.outside_log
      x.2.outside_log := by
  intro x
  have hhw : HwFollowsProfile portAndGroupProfile portAndGroup := by
    intro id o ho
    cases id with
    | thresholdMode | unknown => simp [BufferProfile.appliesTo] at ho
    | xoffTh | xonTh =>
      rw [List.mem_singleton.mp ho]
      rfl
    | _ =>
      rcases List.mem_cons.mp ho with rfl | ho
      · rfl
      · rw [List.mem_singleton.mp ho]
        rfl
  have hfail : x.1 = .failure := rfl
  refine ⟨hfail, (bufferProfileAttrSet_allOrNothing _ rfl
    ⟨by decide, by decide⟩ hhw (fun _ _ _ _ => rfl) _).2 ?_⟩
  exact fun hno => absurd (hfail.symm.trans hno) (by decide)

end OpxSai
