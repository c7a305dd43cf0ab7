import Mathlib.Logic.Basic
import Mathlib.Tactic.ByContra
import OpxSai.Lib.Run
import OpxSai.Switching.Lag

/-!
# LAG cache, NPU and notifications

The LAGs and ports in the cache should be those that the NPU has, and the modules should be told of
each call that succeeds and of no other. Calls that fail half-way are told all the same, or leave
the two sides apart.

* `lagCache_of_run` — the main result.
-/

namespace OpxSai

open LagDb

variable {events : List LagEvent} {cache npu : Oid → Bool} {ports npu_ports : Oid → Oid → Prop}
variable {lag_id port_id : Oid} {attr_list : List LagAttr} {npu_ports' : Oid → Oid → Prop}
variable {npu' lags : Oid → Bool} {c : LagOpCall}

/-! ## What the NPU has -/

variable (log : CallLog LagCall) (e : LagCall × Status) (l : Oid) (env : LagEnv)

def npuLagStep (l : Oid) (x : Bool) (e : LagCall × Status) : Bool :=
  match e with
  | (.lagCreate lag_id, .success) => if l = lag_id then true else x
  | (.lagRemove lag_id, .success) => if l = lag_id then false else x
  | _ => x

def npuLags (log : CallLog LagCall) (l : Oid) : Bool := log.foldl (npuLagStep l) false

def npuPortStep (l p : Oid) (x : Bool) (e : LagCall × Status) : Bool :=
  match e with
  | (.addPort lag_id port_id, .success) => if l = lag_id ∧ p = port_id then true else x
  | (.removePort lag_id port_id, .success) => if l = lag_id ∧ p = port_id then false else x
  | _ => x

def npuPorts (log : CallLog LagCall) (l p : Oid) : Bool := log.foldl (npuPortStep l p) false

theorem npuLags_append : npuLags (log ++ [e]) l = npuLagStep l (npuLags log l) e := by
  simp [npuLags, List.foldl_append]

theorem npuPorts_append (p) : npuPorts (log ++ [e]) l p = npuPortStep l p (npuPorts log l p) e := by
  simp [npuPorts, List.foldl_append]

/-- A LAG is removed from the NPU when the NPU has it. -/
def RemovedOnce (log : CallLog LagCall) : Prop :=
  ∀ before l rc after, log = before ++ (.lagRemove l, rc) :: after → npuLags before l = true

theorem RemovedOnce.append {log} (h : RemovedOnce log) {e}
    (he : ∀ l rc, e = (.lagRemove l, rc) → npuLags log l = true) : RemovedOnce (log ++ [e]) := by
  intro before l rc after heq
  rcases List.eq_nil_or_concat after with rfl | ⟨after', e', rfl⟩
  · obtain ⟨rfl, hlast⟩ := List.append_inj' heq rfl
    exact he l rc (List.head_eq_of_cons_eq hlast)
  rw [List.concat_eq_append, ← List.cons_append, ← List.append_assoc] at heq
  obtain ⟨hlog, -⟩ := List.append_inj' heq rfl
  exact h before l rc after' hlog

/-! ## Cache and NPU -/

def LagDb.keys (db : LagDb) : List (Oid × Oid) := db.ports.map fun p => (p.lag_id, p.port_id)

variable {db base : LagDb}

theorem LagDb.isPortLagMember_iff (p : Oid) (db : LagDb) :
    db.isPortLagMember l p = true ↔ (l, p) ∈ db.keys := by
  simp [LagDb.isPortLagMember, LagDb.keys]

/-- Cache, NPU and notifications at some point of a call that has begun at `base`. -/
structure LagIs (base db : LagDb) (cache npu : Oid → Bool) (ports npu_ports : Oid → Oid → Prop)
    (events : List LagEvent) : Prop where
  lags : ∀ l, db.lags l = cache l
  npu_lags : ∀ l, npuLags db.outside_log l = npu l
  ports : ∀ l p, (l, p) ∈ db.keys ↔ ports l p
  npu_ports : ∀ l p, npuPorts db.outside_log l p = true ↔ npu_ports l p
  events : db.events = base.events ++ events
  modules : db.lag_event = base.lag_event
  once : RemovedOnce db.outside_log

def setLag (f : Oid → Bool) (lag_id : Oid) (x : Bool) : Oid → Bool :=
  fun l => if l = lag_id then x else f l

namespace LagIs

section

variable (h : LagIs base db cache npu ports npu_ports events)

include h

/-- The lock does not matter. -/
theorem locked (l) :
    LagIs base { db with lag_lock := l } cache npu ports npu_ports events :=
  ⟨h.lags, h.npu_lags, h.ports, h.npu_ports, h.events, h.modules, h.once⟩

theorem congr {cache' : Oid → Bool} {ports' : Oid → Oid → Prop}
    (hcache : ∀ l, cache l = cache' l) (hnpu : ∀ l, npu l = npu' l)
    (hports : ∀ l p, ports l p ↔ ports' l p) (hnpu_ports : ∀ l p, npu_ports l p ↔ npu_ports' l p) :
    LagIs base db cache' npu' ports' npu_ports' events :=
  ⟨fun l => (h.lags l).trans (hcache l), fun l => (h.npu_lags l).trans (hnpu l),
    fun l p => (h.ports l p).trans (hports l p),
    fun l p => (h.npu_ports l p).trans (hnpu_ports l p), h.events, h.modules, h.once⟩

variable (env : LagEnv)

theorem call {c} (hremove : ∀ l, c = .lagRemove l → npu l = true)
    (hlags : ∀ l, npuLagStep l (npu l) (c, (db.call env c).1) = npu' l)
    (hports : ∀ l p x, (x = true ↔ npu_ports l p) →
      (npuPortStep l p x (c, (db.call env c).1) = true ↔ npu_ports' l p)) :
    LagIs base (db.call env c).2 cache npu' ports npu_ports' events := by
  refine ⟨h.lags, fun l => ?_, h.ports, fun l p => ?_, h.events, h.modules, ?_⟩
  · show npuLags (db.outside_log ++ [_]) l = _
    rw [npuLags_append, h.npu_lags l]
    exact hlags l
  · show npuPorts (db.outside_log ++ [_]) l p = true ↔ _
    rw [npuPorts_append]
    exact hports l p _ (h.npu_ports l p)
  · refine h.once.append fun l rc heq => ?_
    rw [h.npu_lags]
    exact hremove l (Prod.mk.inj heq).1

theorem failed {c} (hremove : ∀ l, c = .lagRemove l → npu l = true)
    (hrc : (db.call env c).1 ≠ .success) :
    LagIs base (db.call env c).2 cache npu ports npu_ports events := by
  refine h.call env hremove (fun l => ?_) fun l p x hx => ?_
  · unfold npuLagStep
    split
    · exact absurd (Prod.mk.inj ‹_›).2 hrc
    · exact absurd (Prod.mk.inj ‹_›).2 hrc
    · rfl
  · unfold npuPortStep
    split
    · exact absurd (Prod.mk.inj ‹_›).2 hrc
    · exact absurd (Prod.mk.inj ‹_›).2 hrc
    · exact hx

theorem lagCreate (hrc : (db.call env (.lagCreate lag_id)).1 = .success) :
    LagIs base (db.call env (.lagCreate lag_id)).2 cache (setLag npu lag_id true) ports npu_ports
      events := by
  refine h.call env (by simp) (fun l => ?_) fun l p x hx => hx
  rw [hrc]
  rfl

theorem lagRemove (hhas : npu lag_id = true)
    (hrc : (db.call env (.lagRemove lag_id)).1 = .success) :
    LagIs base (db.call env (.lagRemove lag_id)).2 cache (setLag npu lag_id false) ports npu_ports
      events := by
  refine h.call env (fun l hl => ?_) (fun l => ?_) fun l p x hx => hx
  · obtain rfl := LagCall.lagRemove.inj hl
    exact hhas
  · rw [hrc]
    rfl

theorem addPort (hrc : (db.call env (.addPort lag_id port_id)).1 = .success) :
    LagIs base (db.call env (.addPort lag_id port_id)).2 cache npu ports
      (fun l p => npu_ports l p ∨ (l = lag_id ∧ p = port_id)) events := by
  refine h.call env (by simp) (fun _ => rfl) fun l p x hx => ?_
  rw [hrc, ← hx]
  show (if l = lag_id ∧ p = port_id then true else _) = true ↔ _
  by_cases hlp : l = lag_id ∧ p = port_id <;> simp [hlp]

theorem removePort (hrc : (db.call env (.removePort lag_id port_id)).1 = .success) :
    LagIs base (db.call env (.removePort lag_id port_id)).2 cache npu ports
      (fun l p => npu_ports l p ∧ ¬(l = lag_id ∧ p = port_id)) events := by
  refine h.call env (by simp) (fun _ => rfl) fun l p x hx => ?_
  rw [hrc, ← hx]
  show (if l = lag_id ∧ p = port_id then false else _) = true ↔ _
  by_cases hlp : l = lag_id ∧ p = port_id <;> simp [hlp]

theorem quiet {c} (hc : (∃ l, c = .nodeAdd l) ∨ (∃ l p, c = .portNodeAdd l p) ∨
      (∃ l p i v, c = .portFlagSet l p i v) ∨ ∃ l, c = .portListGet l) :
    LagIs base (db.call env c).2 cache npu ports npu_ports events := by
  obtain ⟨l, rfl⟩ | ⟨l, p, rfl⟩ | ⟨l, p, i, v, rfl⟩ | ⟨l, rfl⟩ := hc <;>
    exact h.call env (by simp) (fun _ => rfl) fun _ _ _ hx => hx

end

theorem notify (h : LagIs base db cache npu ports npu_ports []) (lag_id) (oper) :
    LagIs base (lagNotifyModules lag_id oper db) cache npu ports npu_ports
      (base.lag_event.map fun m => ⟨m, lag_id, oper⟩) := by
  refine ⟨h.lags, h.npu_lags, h.ports, h.npu_ports, ?_, h.modules, h.once⟩
  show db.events ++ _ = _
  rw [h.events, h.modules, List.append_nil]

end LagIs

/-! ## The property and the condition -/

/-- The LAGs and ports in the cache are those that the NPU has, and no LAG was removed from the NPU
that it did not have. -/
structure LagCacheAgrees (db : LagDb) : Prop where
  lags : ∀ l, db.lags l = npuLags db.outside_log l
  ports : ∀ l p, db.isPortLagMember l p = npuPorts db.outside_log l p
  once : RemovedOnce db.outside_log

def lagEventOf (c : LagOpCall) (db : LagDb) : Option (Oid × LagOper) :=
  match c.op with
  | .create _ => some (c.env.npu_lag_id, .create)
  | .remove lag_id => some (lag_id, .delete)
  | .memberCreate attr_list =>
    match l2LagMemberScan attr_list ⟨none, none, none, none⟩ with
    | .ok ⟨some lag, some port_id, _, _⟩ => some (lag, .addPorts [port_id])
    | _ => none
  | .memberRemove member_id =>
    (db.infoFromMemberId member_id).map fun p => (p.lag_id, .delPorts [p.port_id])
  | _ => none

def lagTold (db : LagDb) : Option (Oid × LagOper) → List LagEvent
  | none => []
  | some (lag_id, oper) => db.lag_event.map fun m => ⟨m, lag_id, oper⟩

/-- A call that fails changes neither side, and the modules are told of the call once if it succeeds,
and not at all otherwise. -/
structure LagCallRight (c : LagOpCall) (db : LagDb) : Prop where
  unchanged : (lagExec c db).1 ≠ .success →
    (∀ l, (lagStep c db).lags l = db.lags l ∧
      npuLags (lagStep c db).outside_log l = npuLags db.outside_log l) ∧
    ∀ l p, (lagStep c db).isPortLagMember l p = db.isPortLagMember l p ∧
      npuPorts (lagStep c db).outside_log l p = npuPorts db.outside_log l p
  told : (lagStep c db).events = db.events ++
    if (lagExec c db).1 = .success then lagTold db (lagEventOf c db) else []

/-- The condition on a create: when the NPU makes a LAG it is one it did not have, the list is empty
and the cache takes the LAG. -/
def LagCreateOk (attr_list : List LagAttr) (db : LagDb) : Prop :=
  env.outside db.outside_log (.lagCreate env.npu_lag_id) = .success →
    npuLags db.outside_log env.npu_lag_id = false ∧ attr_list = [] ∧
    env.outside (db.outside_log ++ [(.lagCreate env.npu_lag_id, .success)])
      (.nodeAdd env.npu_lag_id) = .success

/-- The condition on a remove: the NPU removes a LAG that may be removed. -/
def LagRemoveOk (lag_id : Oid) (db : LagDb) : Prop :=
  db.lags lag_id = true → db.portCount lag_id = 0 → env.in_use lag_id = false →
    env.outside db.outside_log (.lagRemove lag_id) = .success

/-- The condition on the create of a member: when the cache does not take the port, or a flag is not
set, the NPU takes the port out again. -/
def LagMemberCreateOk (lag port_id : Oid) (ing_disable egr_disable : Option Bool)
    (db : LagDb) : Prop :=
  let a := db.call env (.addPort lag port_id)
  let b := a.2.portNodeAdd env lag port_id env.npu_member_id
  let c := l2LagMemberFlag env lag port_id true ing_disable b.2
  let d := if c.1 ≠ .success then c else l2LagMemberFlag env lag port_id false egr_disable c.2
  l2ValidateLagPortAdd env lag port_id db = .success → a.1 = .success →
    (b.1 ≠ .success → env.outside b.2.outside_log (.removePort lag port_id) = .success) ∧
    (b.1 = .success → d.1 ≠ .success →
      env.outside d.2.outside_log (.removePort lag port_id) = .success)

variable {env : LagEnv} {lag : Oid}

/-- The condition on a call. For the remove of a member: the NPU takes the port out. -/
def LagOpOk (c : LagOpCall) (db : LagDb) : Prop :=
  match c.op with
  | .create attr_list => LagCreateOk c.env attr_list db
  | .remove lag_id => LagRemoveOk c.env lag_id db
  | .memberCreate attr_list => ∀ lag port_id ing_disable egr_disable,
      l2LagMemberScan attr_list ⟨none, none, none, none⟩ =
        .ok ⟨some lag, some port_id, ing_disable, egr_disable⟩ →
      LagMemberCreateOk c.env lag port_id ing_disable egr_disable db.lock
  | .memberRemove member_id => ∀ p, db.infoFromMemberId member_id = some p →
      c.env.port_valid p.port_id = true → db.lags p.lag_id = true →
      c.env.outside db.outside_log (.removePort p.lag_id p.port_id) = .success
  | _ => True

/-! ## The calls -/

/-- Cache and NPU agree, and a port is in a LAG that there is. -/
structure LagOk (db : LagDb) : Prop where
  lags : ∀ l, db.lags l = npuLags db.outside_log l
  ports : ∀ l p, (l, p) ∈ db.keys ↔ npuPorts db.outside_log l p = true
  owned : ∀ l p, (l, p) ∈ db.keys → db.lags l = true
  once : RemovedOnce db.outside_log

abbrev LagLeft (db db' : LagDb) (lags : Oid → Bool) (ports : Oid → Oid → Prop)
    (events : List LagEvent) : Prop :=
  LagIs db db' lags lags ports ports events

/-- A call leaves both sides as they were, and tells nobody. -/
abbrev LagQuiet (db db' : LagDb) : Prop :=
  LagLeft db db' db.lags (fun l p => (l, p) ∈ db.keys) []

theorem LagOk.quiet (h : LagOk db) : LagQuiet db db :=
  ⟨fun _ => rfl, fun l => (h.lags l).symm, fun _ _ => .rfl, fun l p => (h.ports l p).symm,
    (List.append_nil _).symm, rfl, h.once⟩

theorem LagLeft.ok {db'}
    (h : LagLeft db db' lags ports events) (howned : ∀ l p, ports l p → lags l = true) : LagOk db' where
  lags := fun l => (h.lags l).trans (h.npu_lags l).symm
  ports := fun l p => (h.ports l p).trans (h.npu_ports l p).symm
  owned := fun l p hin => (h.lags l).trans (howned l p ((h.ports l p).mp hin))
  once := h.once

theorem LagIs.nodeAdd (h : LagIs base db cache npu ports npu_ports events) {env}
    (hno : db.lags lag_id = false) (hrc : env.outside db.outside_log (.nodeAdd lag_id) = .success) :
    (db.nodeAdd env lag_id).1 = .success ∧
    LagIs base (db.nodeAdd env lag_id).2 (setLag cache lag_id true) npu ports npu_ports events := by
  have hcall := h.quiet env (c := .nodeAdd lag_id) (.inl ⟨lag_id, rfl⟩)
  have hnode : db.nodeAdd env lag_id = (.success, { (db.call env (.nodeAdd lag_id)).2 with
      lags := setLag db.lags lag_id true }) := by
    have hrc' : (db.call env (.nodeAdd lag_id)).1 = .success := hrc
    simp only [LagDb.nodeAdd, hno, hrc']
    rfl
  rw [hnode]
  refine ⟨rfl, fun l => ?_, hcall.npu_lags, hcall.ports, hcall.npu_ports, hcall.events,
    hcall.modules, hcall.once⟩
  show setLag db.lags lag_id true l = _
  unfold setLag
  rw [h.lags]

theorem l2CreateLag_cases (h : LagOk db) (hok : LagCreateOk env attr_list db) :
    ((l2CreateLag env attr_list db).1 ≠ .success ∧
      LagQuiet db (l2CreateLag env attr_list db).2) ∨
    ((l2CreateLag env attr_list db).1 = .success ∧
      LagLeft db (l2CreateLag env attr_list db).2 (setLag db.lags env.npu_lag_id true)
        (fun l p => (l, p) ∈ db.keys) (db.lag_event.map fun m => ⟨m, env.npu_lag_id, .create⟩)) := by
  have hlock : LagQuiet db db.lock := h.quiet.locked _
  simp only [l2CreateLag]
  split
  next hfail => exact .inl ⟨hfail, (hlock.failed env (by simp) hfail).locked _⟩
  rename_i hrc
  obtain ⟨hfresh, rfl, hnode⟩ := hok (not_not.mp hrc)
  have hcreate := hlock.lagCreate env (not_not.mp hrc)
  have hlog : (db.lock.call env (.lagCreate env.npu_lag_id)).2.outside_log =
      db.outside_log ++ [(.lagCreate env.npu_lag_id, .success)] := by
    rw [← not_not.mp hrc]
    rfl
  have hnode' : env.outside (db.lock.call env (.lagCreate env.npu_lag_id)).2.outside_log
      (.nodeAdd env.npu_lag_id) = .success := by
    rw [hlog]
    exact hnode
  obtain ⟨hrc', hadd⟩ := hcreate.nodeAdd ((h.lags _).trans hfresh) hnode'
  generalize (db.lock.call env (.lagCreate env.npu_lag_id)).2.nodeAdd _ _ = b at hrc' hadd ⊢
  have hempty : l2CreateLagAttrs [] 0 b.1 = b.1 := rfl
  rw [hempty, if_ok hrc', if_ok hrc']
  exact .inr ⟨hrc', (hadd.locked _).notify _ _⟩

theorem l2RemoveLag_cases (h : LagOk db) (hok : LagRemoveOk env lag_id db) :
    ((l2RemoveLag env lag_id db).1 ≠ .success ∧ LagQuiet db (l2RemoveLag env lag_id db).2) ∨
    ((l2RemoveLag env lag_id db).1 = .success ∧ (∀ p, (lag_id, p) ∉ db.keys) ∧
      LagLeft db (l2RemoveLag env lag_id db).2 (setLag db.lags lag_id false)
        (fun l p => (l, p) ∈ db.keys) (db.lag_event.map fun m => ⟨m, lag_id, .delete⟩)) := by
  have hlock : LagQuiet db db.lock := h.quiet.locked _
  simp only [l2RemoveLag]
  split
  · exact .inl ⟨by simp, hlock.locked _⟩
  rename_i hknown
  have hlag : db.lags lag_id = true := by simpa [LagDb.lock] using hknown
  split
  · exact .inl ⟨by simp, hlock.locked _⟩
  rename_i hfree
  obtain ⟨hcount, huse⟩ : db.portCount lag_id = 0 ∧ env.in_use lag_id = false := by
    refine ⟨by_contra fun hno => hfree (.inl hno), ?_⟩
    cases huse : env.in_use lag_id with
    | false => rfl
    | true => exact absurd (.inr huse) hfree
  have hrc := hok hlag hcount huse
  have hnode : db.lock.nodeRemove lag_id =
      (.success, { db.lock with lags := setLag db.lags lag_id false }) := by
    have hlag' : db.lock.lags lag_id = true := hlag
    unfold LagDb.nodeRemove
    rw [if_pos hlag']
    rfl
  rw [hnode]
  dsimp only
  rw [if_pos rfl]
  have hrc' : (LagDb.call env (.lagRemove lag_id)
      { db.lock with lags := setLag db.lags lag_id false }).1 = .success := hrc
  have hgone : LagIs db { db.lock with lags := setLag db.lags lag_id false }
      (setLag db.lags lag_id false) db.lags (fun l p => (l, p) ∈ db.keys)
      (fun l p => (l, p) ∈ db.keys) [] :=
    ⟨fun _ => rfl, hlock.npu_lags, hlock.ports, hlock.npu_ports, hlock.events, hlock.modules,
      hlock.once⟩
  have hremove := hgone.lagRemove env hlag hrc'
  rw [if_ok hrc']
  refine .inr ⟨hrc', fun p hin => ?_, (hremove.locked _).notify _ _⟩
  -- the LAG has no ports
  obtain ⟨q, hq, heq⟩ := List.mem_map.mp hin
  have hq' : q ∈ db.ports.filter fun p => p.lag_id = lag_id :=
    List.mem_filter.mpr ⟨hq, by simpa using (Prod.mk.inj heq).1⟩
  have hnil : db.ports.filter (fun p => p.lag_id = lag_id) = [] := List.length_eq_zero_iff.mp hcount
  rw [hnil] at hq'
  cases hq'

theorem LagIs.flagSet (h : LagIs base db cache npu ports npu_ports events) {env}
    {is_ingress value : Bool} :
    LagIs base (l2LagPortFlagSet env lag_id port_id is_ingress value db).2 cache npu ports npu_ports
      events := by
  have hcall : ∀ (db' : LagDb) v, LagIs base db' cache npu ports npu_ports events →
      LagIs base (db'.call env (.portFlagSet lag_id port_id is_ingress v)).2 cache npu ports npu_ports
        events :=
    fun _ v h' => h'.quiet env (.inr (.inr (.inl ⟨_, _, _, v, rfl⟩)))
  simp only [l2LagPortFlagSet]
  split
  · exact h
  generalize (if is_ingress = true then _ else _ : Bool) = old_value
  split
  · exact h
  have hset := hcall db value h
  generalize (db.call env (.portFlagSet lag_id port_id is_ingress value)) = a at hset ⊢
  split
  · refine ⟨hset.lags, hset.npu_lags, fun l p => ?_, hset.npu_ports, hset.events, hset.modules,
      hset.once⟩
    have hkeys : (a.2.setDisableStatus lag_id port_id is_ingress value).keys = a.2.keys := by
      unfold LagDb.keys LagDb.setDisableStatus
      rw [List.map_map]
      refine List.map_congr_left fun q _ => ?_
      simp only [Function.comp_apply]
      split
      · split <;> rfl
      · rfl
    rw [hkeys]
    exact hset.ports l p
  · exact hcall a.2 old_value hset

theorem LagIs.memberFlag
    (h : LagIs base db cache npu ports npu_ports events) (env) (lag_id port_id)
    (is_ingress : Bool) (value) :
    LagIs base (l2LagMemberFlag env lag_id port_id is_ingress value db).2 cache npu ports npu_ports
      events := by
  cases value with
  | none => exact h
  | some value => exact h.flagSet

theorem LagIs.portNodeRemove (h : LagIs base db cache npu ports npu_ports events) :
    LagIs base (db.portNodeRemove lag_id port_id) cache npu
      (fun l p => ports l p ∧ ¬(l = lag_id ∧ p = port_id)) npu_ports events := by
  refine ⟨h.lags, h.npu_lags, fun l p => ?_, h.npu_ports, h.events, h.modules, h.once⟩
  rw [← h.ports]
  unfold LagDb.keys LagDb.portNodeRemove
  simp only [List.mem_map, List.mem_filter, decide_eq_true_eq, Prod.mk.injEq]
  constructor
  · rintro ⟨q, ⟨hq, hne⟩, rfl, rfl⟩
    exact ⟨⟨q, hq, rfl, rfl⟩, hne⟩
  · rintro ⟨⟨q, hq, rfl, rfl⟩, hne⟩
    exact ⟨q, ⟨hq, hne⟩, rfl, rfl⟩

theorem LagIs.removeLagPort (h : LagIs base db cache npu ports npu_ports events) (env)
    (hrc : env.outside db.outside_log (.removePort lag_id port_id) = .success) :
    LagIs base (l2RemoveLagPort env lag_id port_id db).2 cache npu
      (fun l p => ports l p ∧ ¬(l = lag_id ∧ p = port_id))
      (fun l p => npu_ports l p ∧ ¬(l = lag_id ∧ p = port_id)) events :=
  (h.removePort env hrc).portNodeRemove

theorem l2ValidateLagPortAdd_success (h : l2ValidateLagPortAdd env lag port_id db = .success) : db.lags
    lag = true ∧ (lag, port_id) ∉ db.keys := by
  unfold l2ValidateLagPortAdd at h
  split at h
  · cases h
  split at h
  · cases h
  rename_i hlag
  split at h
  · cases h
  rename_i hnew
  rw [LagDb.isPortLagMember_iff] at hnew
  exact ⟨by simpa using hlag, hnew⟩

theorem LagDb.portNodeAdd_cases (db : LagDb) (env : LagEnv) (lag port_id member_id : Oid) :
    ((db.call env (.portNodeAdd lag port_id)).1 ≠ .success ∧
      db.portNodeAdd env lag port_id member_id = db.call env (.portNodeAdd lag port_id)) ∨
    db.portNodeAdd env lag port_id member_id = (.success, { (db.call env (.portNodeAdd lag port_id)).2 with
      ports := ⟨lag, port_id, member_id, false, false⟩ :: db.ports }) := by
  simp only [LagDb.portNodeAdd]
  split
  · exact .inl ⟨‹_›, rfl⟩
  next hok => exact .inr (Prod.ext (not_not.mp hok) rfl)

theorem l2CreateLagMemberLocked_cases {ing_disable egr_disable}
    (h : LagIs base db base.lags base.lags (fun l p => (l, p) ∈ base.keys)
      (fun l p => (l, p) ∈ base.keys) [])
    (hok : LagMemberCreateOk env lag port_id ing_disable egr_disable db) :
    ((l2CreateLagMemberLocked env lag port_id ing_disable egr_disable db).1 ≠ .success ∧
      LagQuiet base (l2CreateLagMemberLocked env lag port_id ing_disable egr_disable db).2) ∨
    ((l2CreateLagMemberLocked env lag port_id ing_disable egr_disable db).1 = .success ∧
      base.lags lag = true ∧
      LagLeft base (l2CreateLagMemberLocked env lag port_id ing_disable egr_disable db).2 base.lags
        (fun l p => (l, p) ∈ base.keys ∨ (l = lag ∧ p = port_id)) []) := by
  simp only [l2CreateLagMemberLocked]
  split
  next hfail => exact .inl ⟨hfail, h⟩
  rename_i hvalid
  have hok' := hok (not_not.mp hvalid)
  obtain ⟨hlag, hnew⟩ := l2ValidateLagPortAdd_success (not_not.mp hvalid)
  rw [h.lags] at hlag
  rw [h.ports] at hnew
  simp only [l2AddLagPort]
  by_cases ha : (db.call env (.addPort lag port_id)).1 ≠ .success
  · rw [if_pos ha, if_pos ha]
    exact .inl ⟨ha, h.failed env (by simp) ha⟩
  obtain ⟨hback, hflags⟩ := hok' (not_not.mp ha)
  have hadd := h.addPort env (not_not.mp ha)
  rw [if_neg ha]
  generalize (db.call _ _).2 = a at hadd hback hflags ⊢
  -- what is put in and taken out again
  have hundo : ∀ l p, ((l, p) ∈ base.keys ∨ (l = lag ∧ p = port_id)) ∧ ¬(l = lag ∧ p = port_id) ↔
      (l, p) ∈ base.keys := by
    intro l p
    constructor
    · rintro ⟨hin | hyes, hno⟩
      · exact hin
      · exact absurd hyes hno
    · intro hin
      refine ⟨.inl hin, ?_⟩
      rintro ⟨rfl, rfl⟩
      exact hnew hin
  have hcall := hadd.quiet env (c := .portNodeAdd lag port_id) (.inr (.inl ⟨_, _, rfl⟩))
  obtain ⟨hb, hnode⟩ | hnode := a.portNodeAdd_cases env lag port_id env.npu_member_id
  · rw [hnode] at hback ⊢
    dsimp only
    rw [if_pos hb, if_pos hb]
    refine .inl ⟨hb, ?_⟩
    exact (hcall.removePort env (hback hb)).congr (fun _ => rfl) (fun _ => rfl) (fun _ _ => .rfl)
      hundo
  rw [hnode] at hflags ⊢
  dsimp only at hflags ⊢
  rw [if_neg fun hno : Status.success ≠ Status.success => hno rfl,
    if_neg fun hno : Status.success ≠ Status.success => hno rfl]
  have hin : LagLeft base { (a.call env (.portNodeAdd lag port_id)).2 with
      ports := ⟨lag, port_id, env.npu_member_id, false, false⟩ :: a.ports } base.lags
      (fun l p => (l, p) ∈ base.keys ∨ (l = lag ∧ p = port_id)) [] := by
    refine ⟨hcall.lags, hcall.npu_lags, fun l p => ?_, hcall.npu_ports, hcall.events, hcall.modules,
      hcall.once⟩
    show (l, p) ∈ (lag, port_id) :: a.keys ↔ _
    rw [List.mem_cons, Prod.mk.injEq, hadd.ports]
    exact or_comm
  have hflags' := hflags rfl
  generalize ({ (a.call env (.portNodeAdd lag port_id)).2 with
    ports := ⟨lag, port_id, env.npu_member_id, false, false⟩ :: a.ports } : LagDb) = b
    at hin hflags' ⊢
  have hing := hin.memberFlag env lag port_id true ing_disable
  generalize l2LagMemberFlag _ _ _ _ _ b = x at hing hflags' ⊢
  have hegr := hing.memberFlag env lag port_id false egr_disable
  have hboth : LagLeft base (if x.1 ≠ .success then x
      else l2LagMemberFlag env lag port_id false egr_disable x.2).2 base.lags
      (fun l p => (l, p) ∈ base.keys ∨ (l = lag ∧ p = port_id)) [] := by
    split
    · exact hing
    · exact hegr
  generalize (if x.1 ≠ .success then x
    else l2LagMemberFlag env lag port_id false egr_disable x.2) = d at hboth hflags' ⊢
  split
  next hfail =>
    refine .inl ⟨hfail, ?_⟩
    exact (hboth.removeLagPort env (hflags' hfail)).congr (fun _ => rfl) (fun _ => rfl) hundo hundo
  next hrc => exact .inr ⟨not_not.mp hrc, hlag, hboth⟩

/-! ## One call -/

/-- A call that leaves both sides as they were is right if it fails, or has nothing to tell. -/
theorem LagOk.right_of_quiet (h : LagOk db) (hquiet : LagQuiet db (lagStep c db))
    (htold : (lagExec c db).1 = .success → lagEventOf c db = none) :
    LagCallRight c db ∧ LagOk (lagStep c db) := by
  refine ⟨⟨fun _ => ⟨fun l => ⟨hquiet.lags l, ?_⟩, fun l p => ⟨?_, ?_⟩⟩, ?_⟩, hquiet.ok h.owned⟩
  · rw [hquiet.npu_lags]
    exact h.lags l
  · rw [Bool.eq_iff_iff, LagDb.isPortLagMember_iff, LagDb.isPortLagMember_iff]
    exact hquiet.ports l p
  · rw [Bool.eq_iff_iff, ← h.ports]
    exact hquiet.npu_ports l p
  · rw [hquiet.events]
    split
    next hrc =>
      rw [htold hrc]
      rfl
    · rfl

theorem LagOk.right_of_failed (h : LagOk db) {rc} {db'}
    (hexec : lagExec c db = (rc, db')) (hrc : rc ≠ .success) (hquiet : LagQuiet db db') :
    LagCallRight c db ∧ LagOk (lagStep c db) := by
  refine h.right_of_quiet ?_ fun hok => absurd ((congrArg Prod.fst hexec).symm.trans hok) hrc
  unfold lagStep
  rw [hexec]
  exact hquiet

theorem LagOk.right_of_left (hrc : (lagExec c db).1 = .success)
    (hleft : LagLeft db (lagStep c db) lags ports events)
    (htold : events = lagTold db (lagEventOf c db)) (howned : ∀ l p, ports l p → lags l = true) :
    LagCallRight c db ∧ LagOk (lagStep c db) := by
  refine ⟨⟨fun hno => absurd hrc hno, ?_⟩, hleft.ok howned⟩
  rw [hleft.events, if_pos hrc, htold]

theorem LagIs.getAttrs {env} :
    ∀ attr_idx rc db, LagIs base db cache npu ports npu_ports events →
      LagIs base (l2GetLagAttrs env lag_id attr_idx attr_list rc db).2 cache npu ports npu_ports
        events := by
  induction attr_list with
  | nil => exact fun _ _ _ h => h
  | cons attr attr_list ih =>
    intro attr_idx rc db h
    have hread : ∀ x : Status × LagDb, LagIs base x.2 cache npu ports npu_ports events →
        LagIs base (if x.1 ≠ .success then x
          else l2GetLagAttrs env lag_id (attr_idx + 1) attr_list x.1 x.2).2 cache npu ports npu_ports
            events := by
      intro x hx
      split
      · exact hx
      · exact ih _ _ _ hx
    simp only [l2GetLagAttrs]
    refine hread _ ?_
    cases attr with
    | portList => exact h.quiet env (.inr (.inr (.inr ⟨lag_id, rfl⟩)))
    | acl id | unknown id => exact h

theorem l2SetLagMemberAttribute_quiet {member_id} {attr} (h : LagOk db) :
    LagQuiet db (l2SetLagMemberAttribute env member_id attr db).2 := by
  have hlock : LagQuiet db db.lock := h.quiet.locked _
  simp only [l2SetLagMemberAttribute]
  split
  · exact hlock.locked _
  have hlock' : LagQuiet db db.lock.unlock.lock := hlock.locked _
  cases attr with
  | lagId oid | portId oid | unknown id => exact hlock'.locked _
  | egressDisable booldata | ingressDisable booldata => exact hlock'.flagSet.locked _

theorem LagOk.step (h : LagOk db) (hok : LagOpOk c db) :
    LagCallRight c db ∧ LagOk (lagStep c db) := by
  have hlock : LagQuiet db db.lock := h.quiet.locked _
  obtain ⟨env, op⟩ := c
  cases op with
  | create attr_list =>
    rcases l2CreateLag_cases h hok with ⟨hfail, hquiet⟩ | ⟨hrc, hleft⟩
    · exact h.right_of_quiet hquiet fun hrc => absurd hrc hfail
    refine LagOk.right_of_left hrc hleft rfl fun l p hin => ?_
    unfold setLag
    split
    · rfl
    · exact h.owned l p hin
  | remove lag_id =>
    rcases l2RemoveLag_cases h hok with ⟨hfail, hquiet⟩ | ⟨hrc, hempty, hleft⟩
    · exact h.right_of_quiet hquiet fun hrc => absurd hrc hfail
    refine LagOk.right_of_left hrc hleft rfl fun l p hin => ?_
    unfold setLag
    split
    next hl =>
      rw [hl] at hin
      exact absurd hin (hempty p)
    · exact h.owned l p hin
  | set lag_id attr =>
    refine h.right_of_quiet ?_ fun _ => rfl
    simp only [lagStep, lagExec, l2SetLagAttribute]
    split <;> exact hlock.locked _
  | get lag_id attr_list =>
    refine h.right_of_quiet ?_ fun _ => rfl
    simp only [lagStep, lagExec, l2GetLagAttribute]
    split
    · exact h.quiet.locked _
    · exact LagIs.getAttrs _ _ _ h.quiet
  | memberSet member_id attr =>
    exact h.right_of_quiet (l2SetLagMemberAttribute_quiet h) fun _ => rfl
  | memberGet member_id attr_list =>
    refine h.right_of_quiet ?_ fun _ => rfl
    simp only [lagStep, lagExec, l2GetLagMemberAttribute]
    split
    · exact hlock.locked _
    · exact ((hlock.locked _).locked _).locked _
  | memberCreate attr_list =>
    cases hscan : l2LagMemberScan attr_list ⟨none, none, none, none⟩ with
    | error rc =>
      refine h.right_of_quiet ?_ fun _ => by simp [lagEventOf, hscan]
      simp only [lagStep, lagExec, l2CreateLagMember, hscan]
      exact h.quiet
    | ok scan =>
      obtain ⟨lag, port, ing_disable, egr_disable⟩ := scan
      cases lag with
      | none =>
        refine h.right_of_quiet ?_ fun _ => by simp [lagEventOf, hscan]
        simp only [lagStep, lagExec, l2CreateLagMember, hscan]
        exact h.quiet
      | some lag =>
        cases port with
        | none =>
          refine h.right_of_quiet ?_ fun _ => by simp [lagEventOf, hscan]
          simp only [lagStep, lagExec, l2CreateLagMember, hscan]
          exact h.quiet
        | some port_id =>
          have hcases := l2CreateLagMemberLocked_cases hlock
            (hok lag port_id ing_disable egr_disable hscan)
          have hexec : lagExec ⟨env, .memberCreate attr_list⟩ db =
              ((l2CreateLagMemberLocked env lag port_id ing_disable egr_disable db.lock).1,
                if (l2CreateLagMemberLocked env lag port_id ing_disable egr_disable db.lock).1 =
                    .success then
                  lagNotifyModules lag (.addPorts [port_id])
                    (l2CreateLagMemberLocked env lag port_id ing_disable egr_disable db.lock).2.unlock
                else (l2CreateLagMemberLocked env lag port_id ing_disable egr_disable
                  db.lock).2.unlock) := by
            simp only [lagExec, l2CreateLagMember, hscan]
          rcases hcases with ⟨hfail, hquiet⟩ | ⟨hrc, hlag, hleft⟩
          · rw [if_neg hfail] at hexec
            exact h.right_of_failed hexec hfail (hquiet.locked _)
          have hleft' : LagLeft db (lagStep ⟨env, .memberCreate attr_list⟩ db) db.lags
              (fun l p => (l, p) ∈ db.keys ∨ (l = lag ∧ p = port_id))
              (db.lag_event.map fun m => ⟨m, lag, .addPorts [port_id]⟩) := by
            unfold lagStep
            rw [hexec, if_pos hrc]
            exact (hleft.locked _).notify _ _
          refine LagOk.right_of_left ?_ hleft' ?_ ?_
          · rw [hexec]
            exact hrc
          · simp [lagEventOf, hscan, lagTold]
          · rintro l p (hin | ⟨rfl, -⟩)
            · exact h.owned l p hin
            · exact hlag
  | memberRemove member_id =>
    cases hinfo : db.infoFromMemberId member_id with
    | none =>
      refine h.right_of_quiet ?_ fun _ => by simp [lagEventOf, hinfo]
      have hinfo' : db.lock.infoFromMemberId member_id = none := hinfo
      simp only [lagStep, lagExec, l2RemoveLagMember, hinfo']
      exact hlock.locked _
    | some p =>
      have hinfo' : db.lock.infoFromMemberId member_id = some p := hinfo
      by_cases hvalid : env.port_valid p.port_id = true
      · by_cases hlag : db.lags p.lag_id = true
        · have hmem : db.lock.isPortLagMember p.lag_id p.port_id = true := by
            rw [LagDb.isPortLagMember_iff]
            exact List.mem_map.mpr ⟨p, List.mem_of_find?_eq_some hinfo, rfl⟩
          have hlag' : db.lock.lags p.lag_id = true := hlag
          have hexec : lagExec ⟨env, .memberRemove member_id⟩ db = (.success,
              lagNotifyModules p.lag_id (.delPorts [p.port_id])
                (l2RemoveLagPort env p.lag_id p.port_id db.lock).2.unlock) := by
            simp [lagExec, l2RemoveLagMember, hinfo', hvalid, hlag', hmem]
          have hleft : LagLeft db (lagStep ⟨env, .memberRemove member_id⟩ db) db.lags
              (fun l q => (l, q) ∈ db.keys ∧ ¬(l = p.lag_id ∧ q = p.port_id))
              (db.lag_event.map fun m => ⟨m, p.lag_id, .delPorts [p.port_id]⟩) := by
            unfold lagStep
            rw [hexec]
            exact ((hlock.removeLagPort env (hok p hinfo hvalid hlag)).locked _).notify _ _
          refine LagOk.right_of_left ?_ hleft ?_ ?_
          · rw [hexec]
          · simp [lagEventOf, hinfo, lagTold]
          · exact fun l q hin => h.owned l q hin.1
        · have hlag' : ¬ db.lock.lags p.lag_id = true := hlag
          have hexec : lagExec ⟨env, .memberRemove member_id⟩ db = (.itemNotFound,
              db.lock.unlock) := by
            simp [lagExec, l2RemoveLagMember, hinfo', hvalid, hlag']
          exact h.right_of_failed hexec (by simp) (hlock.locked _)
      · have hexec : lagExec ⟨env, .memberRemove member_id⟩ db = (.invalidParameter,
            db.lock.unlock) := by
          simp [lagExec, l2RemoveLagMember, hinfo', hvalid]
        exact h.right_of_failed hexec (by simp) (hlock.locked _)

/-- **LAG cache, NPU and notifications**: after any run whose calls meet the condition, cache and NPU
agree, and the next call that meets the condition is right. -/
theorem lagCache_of_run {lag_event : List Nat} {db : LagDb}
    (hrun : Run lagStep LagOpOk (.initial lag_event) db) :
    LagCacheAgrees db ∧ ∀ c, LagOpOk c db → LagCallRight c db := by
  have hok : LagOk db := by
    refine hrun.induct (P := LagOk) (fun _ _ h hok => (h.step hok).2) ?_
    refine ⟨fun _ => rfl, fun l p => ?_, fun l p hin => ?_, fun before l rc after heq => ?_⟩
    · exact iff_of_false (List.not_mem_nil) (by simp [LagDb.initial, npuPorts])
    · exact absurd hin List.not_mem_nil
    · exact absurd heq (by simp [LagDb.initial])
  refine ⟨⟨hok.lags, fun l p => ?_, hok.once⟩, fun c hc => (hok.step hc).1⟩
  rw [Bool.eq_iff_iff, LagDb.isPortLagMember_iff]
  exact hok.ports l p

def LagEnv.one : LagEnv := .good ⟨.lag, 1⟩ ⟨.lagMember, 1⟩

theorem lagCache_of_run_created :
    let db := lagStep ⟨.one, .memberCreate [.lagId ⟨.lag, 1⟩, .portId ⟨.port, 1⟩]⟩
      (lagStep ⟨.one, .create []⟩ (.initial [3]))
    LagCacheAgrees db ∧ ∀ c, LagOpOk c db → LagCallRight c db := by
  intro db
  refine @lagCache_of_run [3] db (.snoc _ (.snoc _ (.nil _) fun _ => ⟨rfl, rfl, rfl⟩) ?_)
  intro lag port_id ing_disable egr_disable hscan _ _
  refine ⟨fun _ => rfl, fun _ _ => rfl⟩

/-- The NPU does not remove a LAG: the modules are told that it is gone. -/
theorem not_lagCallRight_remove :
    let env : LagEnv := { LagEnv.one with
      outside := fun _ c => if c = .lagRemove ⟨.lag, 1⟩ then .failure else .success }
    ¬ LagCallRight ⟨env, .remove ⟨.lag, 1⟩⟩ (lagStep ⟨env, .create []⟩ (.initial [3])) := by
  intro env h
  exact absurd h.told (by decide)

end OpxSai
