import OpxSai.Lib.Run
import OpxSai.Switching.Fdb

/-!
# FDB — cache and hardware

An entry of the cache is one of the hardware. Creates, removes and flushes change the two together.
Of the events, one that reports an address that may not be learned is answered with a flush in the
hardware, and the cache is left as it is; and a batch that is too long is dropped.

* `FdbBatchTold` — the callback gets the events that changed or confirmed an entry of the cache;
* `fdbFollows_of_run` — when it is so in every state.
-/

namespace OpxSai
variable (env : FdbEnv)

/-! ## The property -/

/-- An entry of the cache is held by the hardware. -/
def FdbFollows (db : FdbDb) : Prop :=
  ∀ key, (db.node key).isSome → (db.hardware key).isSome

/-- The event changes the cache, or confirms an entry that is there: it reports it from a port that
may learn it. -/
def FdbReport.Counts (e : FdbReport) (db : FdbDb) : Prop :=
  (fdbEvent e db).2.nodes ≠ db.nodes ∨
    (e.learns = true ∧ isValidFdbLearn e.env e.key e.node.port_id = true ∧ (db.node e.key).isSome)

instance (e : FdbReport) (db : FdbDb) : Decidable (e.Counts db) :=
  inferInstanceAs (Decidable (_ ∨ _))

def fdbCounted : List FdbReport → FdbDb → List FdbNotification
  | [], _ => []
  | e :: events, db =>
    (if e.Counts (e.occur db) then [e.data.notification_data] else []) ++
      fdbCounted events (fdbEvent e (e.occur db)).2

/-- What a batch of events tells the callback: the events that count; and nothing if the batch is not
looked at, and changes nothing in the cache. -/
structure FdbBatchTold (data : List FdbReport) (db : FdbDb) : Prop where
  taken : data ≠ [] → data.length ≤ db.max_macs → db.registered = true →
    (fdbStep (.events data) db).notified = db.notified ++ [fdbCounted data db]
  silent : db.registered = false → (fdbStep (.events data) db).notified = db.notified
  dropped : data = [] ∨ db.max_macs < data.length →
    (fdbStep (.events data) db).nodes = db.nodes ∧
    (fdbStep (.events data) db).notified = db.notified

/-- The condition on an event: if it reports an address that may not be learned, and the NPU flushes
it, the address is not in the cache. -/
def FdbReport.Ok (e : FdbReport) (db : FdbDb) : Prop :=
  e.learns = true → isValidFdbLearn e.env e.key e.node.port_id = false →
    e.env.outside db.outside_log (.flushFdbEntry e.key false) = .success → db.node e.key = none

variable (data : List FdbReport)

variable (e : FdbReport) (key k : FdbKey) (db : FdbDb)

def FdbEventsOk : List FdbReport → FdbDb → Prop
  | [], _ => True
  | e :: events, db => e.Ok (e.occur db) ∧ FdbEventsOk events (fdbEvent e (e.occur db)).2

/-- The condition on a step. When a batch is too long, an entry of the cache is not gone from the
hardware by it. -/
def FdbOpOk (op : FdbOp) (db : FdbDb) : Prop :=
  match op with
  | .events data =>
    if data.length ≤ db.max_macs then FdbEventsOk data db
    else ∀ key, (db.node key).isSome → ((db.occurAll data).hardware key).isSome
  | _ => True

/-! ## The cache -/

namespace FdbDb

variable {db : FdbDb}

theorem node_isSome (db : FdbDb) : (db.node key).isSome ↔ ∃ n ∈ db.nodes, n.fdb_key = key := by
  simp [node]

@[simp] theorem call_nodes (c : FdbCall) (db : FdbDb) :
    (db.call env c).2.nodes = db.nodes := by
  simp only [call]
  split
  · rfl
  · cases c <;> rfl

theorem call_flush_hardware (flag : Bool) (db : FdbDb) :
    (db.call env (.flushFdbEntry key flag)).2.hardware k =
      if k = key ∧ (db.call env (.flushFdbEntry key flag)).1 = .success then none
      else db.hardware k := by
  simp only [call]
  by_cases hrc : env.outside db.outside_log (.flushFdbEntry key flag) = .success
  · rw [if_ok hrc]
    by_cases hk : k = key
    · simp [setHardware, hk, hrc]
    · simp [setHardware, hk]
  · rw [if_pos hrc]
    simp [hrc]

theorem insertNode_mem {n : FdbNode} {db : FdbDb} {key : FdbKey}
    (h : ((db.insertNode env n).2.node key).isSome) : key = n.fdb_key ∨ (db.node key).isSome := by
  rw [node_isSome] at h ⊢
  unfold insertNode at h
  obtain ⟨m, hm, rfl⟩ := h
  split at hm
  · obtain ⟨m', hm', rfl⟩ := List.mem_map.mp hm
    split
    · exact .inl rfl
    · exact .inr ⟨m', hm', rfl⟩
  split at hm
  · rw [List.mem_orderedInsert] at hm
    obtain rfl | hm := hm
    · exact .inl rfl
    · exact .inr ⟨m, hm, rfl⟩
  · exact .inr ⟨m, hm, rfl⟩

theorem removeNode_mem {db : FdbDb} :
    ((db.removeNode key).node k).isSome ↔ k ≠ key ∧ (db.node k).isSome := by
  rw [node_isSome, node_isSome]
  simp only [removeNode, List.mem_filter, decide_eq_true_eq]
  constructor
  · rintro ⟨n, ⟨hn, hne⟩, rfl⟩
    exact ⟨hne, n, hn, rfl⟩
  · rintro ⟨hne, n, hn, rfl⟩
    exact ⟨n, ⟨hn, hne⟩, rfl⟩

end FdbDb

theorem FdbNode.fill_key (attr_list : List FdbAttr) :
    ∀ n : FdbNode, (attr_list.foldl FdbNode.fill n).fdb_key = n.fdb_key := by
  induction attr_list with
  | nil => exact fun _ => rfl
  | cons attr attr_list ih =>
    intro n
    rw [List.foldl_cons, ih]
    cases attr <;> rfl

theorem FdbReport.node_key : e.node.fdb_key = e.key :=
  FdbNode.fill_key _ _

theorem FdbDb.occurAll_nodes :
    ∀ db : FdbDb, (db.occurAll data).nodes = db.nodes ∧ (db.occurAll data).notified = db.notified := by
  induction data with
  | nil => exact fun _ => ⟨rfl, rfl⟩
  | cons e data ih => exact fun db => ih (e.occur db)

theorem FdbDb.occurAll_node : (db.occurAll data).node key = db.node key := by
  unfold FdbDb.node
  rw [(FdbDb.occurAll_nodes _ db).1]

namespace FdbFollows

variable {db : FdbDb}

theorem flushed (h : FdbFollows db) {env : FdbEnv} {key : FdbKey} {flag : Bool} :
    FdbFollows (if (db.call env (.flushFdbEntry key flag)).1 ≠ .success then
        (db.call env (.flushFdbEntry key flag)).2
      else (db.call env (.flushFdbEntry key flag)).2.removeNode key) := by
  have hhardware := fun k => FdbDb.call_flush_hardware env key k flag db
  have hnodes := FdbDb.call_nodes env (.flushFdbEntry key flag) db
  generalize db.call _ _ = x at hhardware hnodes ⊢
  have hnode : ∀ k, x.2.node k = db.node k := by
    intro k
    unfold FdbDb.node
    rw [hnodes]
  intro k hk
  split at hk
  next hfail =>
    rw [if_pos hfail, hhardware, if_neg fun hyes => hfail hyes.2]
    refine h k ?_
    rw [← hnode]
    exact hk
  rename_i hrc
  rw [if_neg hrc]
  obtain ⟨hne, hin⟩ := (FdbDb.removeNode_mem key k).mp hk
  show (x.2.hardware k).isSome
  rw [hhardware, if_neg fun hyes => hne hyes.1]
  refine h k ?_
  rw [← hnode]
  exact hin

theorem flushNodes (hit : FdbNode → Bool) (flag : Bool) (nodes) :
    ∀ db : FdbDb, FdbFollows db → FdbFollows (flushNodes env hit flag nodes db) := by
  induction nodes with
  | nil => exact fun _ h => h
  | cons n nodes ih =>
    intro db h
    simp only [OpxSai.flushNodes]
    split
    · exact ih _ h.flushed
    · exact ih db h

theorem held (h : FdbFollows db) (key) (port_id) :
    FdbFollows (db.setHardware key (some port_id)) := by
  intro k hk
  simp only [FdbDb.setHardware]
  split
  · rfl
  · exact h k hk

theorem insertNode (h : FdbFollows db) (env) {n : FdbNode}
    (hn : (db.hardware n.fdb_key).isSome) : FdbFollows (db.insertNode env n).2 := by
  have hhardware : (db.insertNode env n).2.hardware = db.hardware := by
    unfold FdbDb.insertNode
    split
    · rfl
    · split <;> rfl
  intro k hk
  rw [hhardware]
  obtain rfl | hin := FdbDb.insertNode_mem env hk
  · exact hn
  · exact h k hin

theorem create (h : FdbFollows db) {env} {fdb_entry} {attr_list} :
    FdbFollows (l2CreateFdbEntry env fdb_entry attr_list db).2 := by
  unfold l2CreateFdbEntry
  split
  · exact h
  split
  · exact h
  split
  · exact h
  rename_i n _
  split
  · exact h
  simp only
  by_cases hrc : env.outside db.outside_log (.createFdbEntry n) = .success
  · have hcall : db.call env (.createFdbEntry n) = (.success,
        ({ db with outside_log := env.outside.log (.createFdbEntry n) db.outside_log } :
          FdbDb).setHardware n.fdb_key (some n.port_id)) := by
      simp only [FdbDb.call]
      rw [if_ok hrc, hrc]
    rw [hcall, if_pos rfl]
    refine insertNode ?_ env ?_
    · exact @held { db with outside_log := env.outside.log (.createFdbEntry n) db.outside_log } h
        n.fdb_key n.port_id
    · simp [FdbDb.setHardware]
  · have hcall : db.call env (.createFdbEntry n) = (env.outside db.outside_log (.createFdbEntry n),
        { db with outside_log := env.outside.log (.createFdbEntry n) db.outside_log }) := by
      simp only [FdbDb.call]
      rw [if_pos hrc]
    rw [hcall, if_neg hrc]
    exact h

theorem remove (h : FdbFollows db) {env} {fdb_entry} :
    FdbFollows (l2RemoveFdbEntry env fdb_entry db).2 := by
  unfold l2RemoveFdbEntry
  split
  · exact h
  · exact h.flushed

theorem flush (h : FdbFollows db) {env} {attr_list} :
    FdbFollows (l2FlushFdbEntry env attr_list db).2 := by
  unfold l2FlushFdbEntry
  split
  · exact h
  simp only
  split
  · exact h
  split
  · exact flushNodes env _ _ _ db h
  split
  · exact flushNodes env _ _ _ db h
  split
  · exact flushNodes env _ _ _ db h
  · exact flushNodes env _ _ _ db h

/-- **One event.** The hardware has changed before, and the cache follows. -/
theorem event (h : FdbFollows db) {e : FdbReport} (hok : e.Ok (e.occur db)) :
    FdbFollows (fdbEvent e (e.occur db)).2 := by
  have hhere : (e.occur db).hardware e.key = if e.learns then some e.node.port_id else none := by
    simp [FdbReport.occur, FdbDb.setHardware]
  have hother : ∀ k, k ≠ e.key → (e.occur db).hardware k = db.hardware k := by
    intro k hk
    simp [FdbReport.occur, FdbDb.setHardware, hk]
  have hnode : ∀ k, (e.occur db).node k = db.node k := fun _ => rfl
  by_cases hlearn : e.learns = true
  · -- the hardware holds the entry
    have hheld : FdbFollows (e.occur db) := by
      intro k hk
      by_cases hke : k = e.key
      · subst hke
        rw [hhere, hlearn]
        rfl
      · rw [hother k hke]
        exact h k hk
    unfold fdbEvent
    rw [if_pos hlearn]
    split
    next hinvalid =>
      have hgone := hok hlearn (by simpa using hinvalid)
      intro k hk
      simp only at hk ⊢
      have hin : ((e.occur db).node k).isSome := by
        unfold FdbDb.node at hk
        rw [FdbDb.call_nodes] at hk
        exact hk
      rw [FdbDb.call_flush_hardware]
      split
      next hflushed =>
        rw [hflushed.1, hgone hflushed.2] at hin
        cases hin
      · exact hheld k hin
    · refine hheld.insertNode _ ?_
      have hkey : e.node.fdb_key = e.key := FdbReport.node_key e
      rw [hkey, hhere, hlearn]
      rfl
  · -- the hardware no longer holds the entry
    unfold fdbEvent
    rw [if_neg hlearn]
    intro k hk
    by_cases hcached : ((e.occur db).node e.key).isSome
    · rw [if_pos hcached] at hk ⊢
      obtain ⟨hne, hin⟩ := (FdbDb.removeNode_mem _ k).mp hk
      show ((e.occur db).hardware k).isSome
      rw [hother k hne]
      exact h k hin
    rw [if_neg hcached] at hk ⊢
    have hne : k ≠ e.key := by
      rintro rfl
      exact hcached hk
    simp only
    rw [hother k hne]
    exact h k hk

theorem events :
    ∀ db : FdbDb, FdbFollows db → FdbEventsOk data db → FdbFollows (fdbEvents data db).2 := by
  induction data with
  | nil => exact fun _ h _ => h
  | cons e data ih => exact fun db h hok => ih _ (h.event hok.1) hok.2

theorem step (h : FdbFollows db) {op} (hok : FdbOpOk op db) : FdbFollows (fdbStep op db) := by
  cases op with
  | create env fdb_entry attr_list => exact h.create
  | remove env fdb_entry => exact h.remove
  | flush env attr_list => exact h.flush
  | events data =>
    simp only [fdbStep, commonFdbEventNotification]
    simp only [FdbOpOk] at hok
    split
    next hdropped =>
      obtain rfl | hlong := hdropped
      · exact h
      rw [if_neg (by omega)] at hok
      intro key hkey
      exact hok key ((FdbDb.occurAll_node _ key db) ▸ hkey)
    rename_i htaken
    rw [if_pos (by omega)] at hok
    have hevents := FdbFollows.events _ db h hok
    split
    · exact hevents
    · exact hevents

end FdbFollows

/-! ## What the callback is passed -/

theorem fdbEvent_counts : (fdbEvent e db).1 = if e.Counts db then [e.data.notification_data] else [] := by
  by_cases hlearn : e.learns = true
  · cases hvalid : isValidFdbLearn e.env e.key e.node.port_id with
    | false =>
      have hevent : fdbEvent e db = ([], (db.call e.env (.flushFdbEntry e.key false)).2) := by
        simp [fdbEvent, hlearn, hvalid]
      rw [if_neg]
      · rw [hevent]
      rintro (hchanged | ⟨-, hyes, -⟩)
      · rw [hevent] at hchanged
        exact hchanged (FdbDb.call_nodes _ _ db)
      · exact absurd (hvalid.symm.trans hyes) (by simp)
    | true =>
      have hevent : fdbEvent e db = (if (db.insertNode e.env e.node).1 = .success ∨
          (db.insertNode e.env e.node).1 = .itemAlreadyExists then [e.data.notification_data] else [],
          (db.insertNode e.env e.node).2) := by
        simp [fdbEvent, hlearn, hvalid]
      have hkey : e.node.fdb_key = e.key := FdbReport.node_key e
      by_cases hcached : (db.node e.key).isSome
      · have hcounts : e.Counts db := .inr ⟨hlearn, hvalid, hcached⟩
        rw [hevent, if_pos hcounts]
        simp [FdbDb.insertNode, hkey, hcached]
      by_cases havail : e.env.node_avail e.key = true
      · have hins : db.insertNode e.env e.node = (.success, { db with
            nodes := db.nodes.orderedInsert (fun a b => a.fdb_key.le b.fdb_key) e.node }) := by
          simp [FdbDb.insertNode, hkey, hcached, havail]
        have hcounts : e.Counts db := by
          refine .inl fun hsame => ?_
          rw [hevent, hins] at hsame
          have hlength := congrArg List.length hsame
          rw [List.orderedInsert_length] at hlength
          omega
        rw [hevent, if_pos hcounts, hins]
        rfl
      · have hins : db.insertNode e.env e.node = (.noMemory, db) := by
          simp [FdbDb.insertNode, hkey, hcached, havail]
        rw [if_neg]
        · rw [hevent, hins]
          rfl
        rintro (hchanged | ⟨-, -, hyes⟩)
        · rw [hevent, hins] at hchanged
          exact hchanged rfl
        · exact hcached hyes
  · by_cases hcached : (db.node e.key).isSome
    · have hevent : fdbEvent e db = ([e.data.notification_data], db.removeNode e.key) := by
        simp [fdbEvent, hlearn, hcached]
      have hcounts : e.Counts db := by
        refine .inl fun hsame => ?_
        rw [hevent] at hsame
        have hgone : ((db.removeNode e.key).node e.key).isSome := by
          unfold FdbDb.node
          rw [hsame]
          exact hcached
        exact ((FdbDb.removeNode_mem _ _).mp hgone).1 rfl
      rw [hevent, if_pos hcounts]
    · have hevent : fdbEvent e db = ([], db) := by
        simp [fdbEvent, hlearn, hcached]
      rw [if_neg]
      · rw [hevent]
      rintro (hchanged | ⟨hyes, -⟩)
      · rw [hevent] at hchanged
        exact hchanged rfl
      · exact hlearn hyes

theorem fdbEvents_counted :
    ∀ db : FdbDb, (fdbEvents data db).1 = fdbCounted data db := by
  induction data with
  | nil => exact fun _ => rfl
  | cons e data ih =>
    intro db
    simp only [fdbEvents, fdbCounted]
    rw [fdbEvent_counts, ih]

/-- The loop does not come to the callback. -/
theorem fdbEvents_notified :
    ∀ db : FdbDb, (fdbEvents data db).2.notified = db.notified ∧
      (fdbEvents data db).2.registered = db.registered := by
  have hcall : ∀ (env : FdbEnv) (c : FdbCall) (db : FdbDb),
      (db.call env c).2.notified = db.notified ∧ (db.call env c).2.registered = db.registered := by
    intro env c db
    simp only [FdbDb.call]
    split
    · exact ⟨rfl, rfl⟩
    · cases c <;> exact ⟨rfl, rfl⟩
  have hinsert : ∀ (env : FdbEnv) (n : FdbNode) (db : FdbDb),
      (db.insertNode env n).2.notified = db.notified ∧
      (db.insertNode env n).2.registered = db.registered := by
    intro env n db
    unfold FdbDb.insertNode
    split
    · exact ⟨rfl, rfl⟩
    · split <;> exact ⟨rfl, rfl⟩
  have hevent : ∀ (e : FdbReport) (db : FdbDb), (fdbEvent e db).2.notified = db.notified ∧
      (fdbEvent e db).2.registered = db.registered := by
    intro e db
    unfold fdbEvent
    split
    · split
      · exact hcall _ _ db
      · exact hinsert _ _ db
    split
    · exact ⟨rfl, rfl⟩
    · exact ⟨rfl, rfl⟩
  induction data with
  | nil => exact fun _ => ⟨rfl, rfl⟩
  | cons e data ih =>
    intro db
    obtain ⟨hnotified, hregistered⟩ := ih (fdbEvent e (e.occur db)).2
    obtain ⟨hnotified', hregistered'⟩ := hevent e (e.occur db)
    exact ⟨hnotified.trans hnotified', hregistered.trans hregistered'⟩

theorem fdbBatchTold : FdbBatchTold data db := by
  obtain ⟨hnotified, hregistered⟩ := fdbEvents_notified data db
  have hlist := fdbEvents_counted data db
  refine ⟨fun hne hle hreg => ?_, fun hno => ?_, fun hdropped => ?_⟩
  · have htaken : ¬(data = [] ∨ db.max_macs < data.length) := by
      rintro (hnil | hlong)
      · exact hne hnil
      · omega
    simp only [fdbStep, commonFdbEventNotification]
    rw [if_neg htaken, if_pos (hregistered.trans hreg), hlist, hnotified]
  · simp only [fdbStep, commonFdbEventNotification]
    split
    · exact (FdbDb.occurAll_nodes _ db).2
    · rw [if_neg (by rw [hregistered, hno]; simp)]
      exact hnotified
  · simp only [fdbStep, commonFdbEventNotification]
    rw [if_pos hdropped]
    exact FdbDb.occurAll_nodes _ db

/-- **FDB cache and hardware**: after any run whose steps meet the condition, what is in the cache is
in the hardware, and the next batch tells the callback what it should. -/
theorem fdbFollows_of_run {max_macs : Nat} {registered : Bool} {hardware : FdbKey → Option Oid}
    {db : FdbDb} (hrun : Run fdbStep FdbOpOk (.initial max_macs registered hardware) db) :
    FdbFollows db ∧ ∀ data, FdbBatchTold data db := by
  refine ⟨hrun.induct (P := FdbFollows) (fun _ _ h hok => h.step hok) ?_, fun data =>
    fdbBatchTold _ db⟩
  intro key hkey
  exact absurd hkey (by simp [FdbDb.initial, FdbDb.node])

def mac5Learned (env : FdbEnv) (port_id : Nat) : FdbReport :=
  ⟨env, ⟨.learned, ⟨10, 5⟩, [.portId ⟨.port, port_id⟩, .type .dynamic, .packetAction 0]⟩, false⟩

theorem fdbFollows_of_run_moved :
    let aged : FdbReport := ⟨.good, ⟨.aged, ⟨10, 5⟩, []⟩, false⟩
    let db := fdbStep (.events [aged, mac5Learned { FdbEnv.good with port_oper_up := fun _ => false } 3])
      (fdbStep (.events [mac5Learned .good 1, mac5Learned .good 2]) (.initial 10 true fun _ => none))
    FdbFollows db ∧ ∀ data, FdbBatchTold data db := by
  intro aged db
  refine @fdbFollows_of_run 10 true (fun _ => none) db (.snoc _ (.snoc _ (.nil _) ?_) ?_)
  · exact ⟨fun _ hno => absurd hno (by decide), fun _ hno => absurd hno (by decide), trivial⟩
  · exact ⟨fun hno => absurd hno (by decide), fun _ _ _ => by decide, trivial⟩

/-- A MAC address that is in the cache is learned again on a port that is down: the hardware is flushed, and the
cache is not. -/
theorem not_fdbFollows_moved :
    ¬ ∀ max_macs registered hardware db,
      Run fdbStep (fun _ _ => True) (.initial max_macs registered hardware) db → FdbFollows db := by
  intro h
  have hrun : Run fdbStep (fun _ _ => True) (.initial 10 true fun _ => none)
      (fdbStep (.events [mac5Learned { FdbEnv.good with port_oper_up := fun _ => false } 2])
        (fdbStep (.events [mac5Learned .good 1]) (.initial 10 true fun _ => none))) :=
    .snoc _ (.snoc _ (.nil _) trivial) trivial
  exact absurd (h _ _ _ _ hrun ⟨10, 5⟩ (by decide)) (by decide)

end OpxSai
