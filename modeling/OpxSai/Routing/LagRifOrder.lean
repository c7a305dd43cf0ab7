import OpxSai.Routing.PortRouting
import OpxSai.Switching.LagCache

/-!
# Routing — a router interface and the members of its LAG

The create call of a router interface on a LAG has two steps: under both locks the router interface
is made, in the NPU on the ports that the LAG has; and when the lock of the LAG has been given back
the map entry is inserted. The create and the remove of a LAG member have two steps as well: under
the lock of the LAG the port joins or leaves it; and with no lock held the callback of the routing
module is called, which looks for the router interface in the map. Steps of different calls come in
any order.

* `rifLagStep` — one step of one of the calls, with what it does in the NPU;
* `LagPortsRouted` — the ports in routing mode, and with the router interface in the NPU, are the
  members of the LAG;
* `lagPortsRouted_of_run` — when it is so once all calls are over.
-/

namespace OpxSai

open Fib
variable {attr_list : List RifAttr} {s : Fib} {lag_id : Oid} {i : Nat}

/-! ## The NPU -/

/-- The ports on which the NPU has the router interface, after one call; `members` are the ports of
its LAG. -/
def npuRifPorts (members ports : Oid → Bool) (x : ExtCall × Status) : Oid → Bool :=
  if x.2 ≠ .success then ports
  else
    match x.1 with
    | .rifCreate _ => members
    | .rifRemove _ => fun _ => false
    | .rifLagMemberUpdate _ port_list is_add => fun p => if p ∈ port_list then is_add else ports p
    | _ => ports

/-! ## The system -/

/-- How far the create call of the router interface has come. -/
inductive RifCreation where
  | waiting
  | made (status : Status) (rif_id : Oid)
  | finished (status : Status)
deriving DecidableEq

structure MemberChange where
  port_id : Oid
  is_add : Bool
deriving DecidableEq

/-- The two modules, the ports on which the NPU has the router interface, the create call of the
router interface, and the callbacks that are still to be made. The routing module has registered
its callback as `module_id`. -/
structure RifLagSys where
  module_id : Nat
  fib : Fib
  lag : LagDb
  rif_ports : Oid → Bool
  create : RifCreation
  changes : List MemberChange

variable {σ : RifLagSys}

/-- `sai_lag_port_list_get` -/
def LagDb.portList (lag_id : Oid) (db : LagDb) : List Oid :=
  (db.ports.filter fun p => p.lag_id = lag_id).map LagPort.port_id

def memberChanges (module_id : Nat) (lag_id : Oid) (e : LagEvent) : List MemberChange :=
  if e.module_id = module_id ∧ e.lag_id = lag_id then
    match e.operation with
    | .addPorts port_list => port_list.map fun p => ⟨p, true⟩
    | .delPorts port_list => port_list.map fun p => ⟨p, false⟩
    | _ => []
  else []

namespace RifLagSys

/-- The outside of the routing module, with the LAG module as it stands. -/
def outside (σ : RifLagSys) (env : Env) : Env := { env with lag_ports := fun l => σ.lag.portList l }

/-- The routing module is in the state `s` now, and the NPU has seen the calls that led there. -/
def setFib (lag_id : Oid) (s : Fib) (σ : RifLagSys) : RifLagSys :=
  { σ with
    fib := s
    rif_ports := (s.npu_log.drop σ.fib.npu_log.length).foldl
      (npuRifPorts fun p => σ.lag.isPortLagMember lag_id p) σ.rif_ports }

end RifLagSys

inductive RifLagOp where
  /-- `sai_fib_router_interface_create`, up to the unlocking of the LAG. -/
  | rifObject (env : Env) (rif_obj_id : Oid) (attr_list : List RifAttr)
  /-- The rest of `sai_fib_router_interface_create`. -/
  | rifMapping (env : Env)
  /-- `sai_l2_create_lag_member` or `sai_l2_remove_lag_member`, up to the unlocking of the LAG. -/
  | member (c : LagOpCall)
  /-- `sai_rif_lag_callback`, for one of the changes. -/
  | callback (env : Env) (i : Nat)

/-- One step. There is one create call of a router interface, and its steps come one after the
other. -/
def rifLagStep (lag_id : Oid) : RifLagOp → RifLagSys → RifLagSys
  | .rifObject env rif_obj_id attr_list, σ =>
    match σ.create with
    | .waiting =>
      if attr_list.length < fibRifMandatoryAttrCount ∨ fibRifMaxAttrCount < attr_list.length then
        { σ with create := .finished .invalidParameter }
      else if !env.avail .rifNode then { σ with create := .finished .noMemory }
      else
        let x := rifCreateObject (σ.outside env) rif_obj_id attr_list σ.fib
        { σ.setFib lag_id x.1.2 with create := .made x.1.1 x.2 }
    | _ => σ
  | .rifMapping env, σ =>
    match σ.create with
    | .made status rif_id =>
      { σ.setFib lag_id (lagRifMappingInsert env lag_id rif_id σ.fib).2 with
        create := .finished status }
    | _ => σ
  | .member c, σ =>
    { σ with
      lag := lagStep c σ.lag
      changes := σ.changes ++
        ((lagStep c σ.lag).events.drop σ.lag.events.length).flatMap
          (memberChanges σ.module_id lag_id) }
  | .callback env i, σ =>
    match σ.changes[i]? with
    | none => σ
    | some x =>
      { σ.setFib lag_id (rifLagCallback env lag_id [x.port_id] x.is_add σ.fib).2 with
        changes := σ.changes.eraseIdx i }

/-! ## The routing module, when nothing fails -/

def Env.AllDone (env : Env) : Prop := ∀ c, env.status c = .success

variable {env : Env}

/-- The calls from `s` to `t` are none that the NPU has the router interface by. -/
def NpuQuiet (s t : Fib) : Prop :=
  ∃ log, t.npu_log = s.npu_log ++ log ∧
    ∀ members ports, log.foldl (npuRifPorts members) ports = ports

namespace NpuQuiet

variable {t u : Fib}

theorem of_same (h : t.npu_log = s.npu_log) : NpuQuiet s t :=
  ⟨[], by rw [h, List.append_nil], fun _ _ => rfl⟩

theorem trans (h : NpuQuiet s t) (k : NpuQuiet t u) : NpuQuiet s u := by
  obtain ⟨log, hlog, hports⟩ := h
  obtain ⟨log', hlog', hports'⟩ := k
  refine ⟨log ++ log', by rw [hlog', hlog, List.append_assoc], fun members ports => ?_⟩
  rw [List.foldl_append, hports, hports']

theorem call {c}
    (hc : ∀ members ports, npuRifPorts members ports (c, env.status c) = ports) {s} :
    NpuQuiet s (s.call env c).2 :=
  ⟨[(c, env.status c)], rfl, fun members ports => hc members ports⟩

end NpuQuiet

theorem PortWrites.npuQuiet {t} (h : PortWrites env s t) : NpuQuiet s t := by
  induction h with
  | refl s => exact .of_same rfl
  | trans _ _ hst htu => exact hst.trans htu
  | @call c hc s =>
    refine .call (fun members ports => ?_)
    unfold npuRifPorts
    split
    · rfl
    · cases c <;> first | rfl | exact absurd hc Bool.false_ne_true
  | mode m s => exact .of_same rfl

section Done

/-- A list of ports, when nothing fails: all of them are put into the mode. -/
theorem portListRoutingModeUpdate_allDone (hdone : env.AllDone) (list) {is_set : Bool}
    {s} :
    (portListRoutingModeUpdate env list is_set s).1 = .success ∧
    ∀ q, (portListRoutingModeUpdate env list is_set s).2.port_fwd_mode q =
      if q ∈ list then routingMode is_set else s.port_fwd_mode q := by
  have hfrom : ∀ (list : List Oid) (i : Nat) (s : Fib),
      (portListUpdateFrom env is_set i list s).2.1 = .success ∧
      ∀ q, (portListUpdateFrom env is_set i list s).2.2.port_fwd_mode q =
        if q ∈ list then routingMode is_set else s.port_fwd_mode q := by
    intro list
    induction list with
    | nil => exact fun i s => ⟨rfl, fun q => by simp [portListUpdateFrom]⟩
    | cons p list ih =>
      intro i s
      have hmode := portRoutingModeUpdate_mode env is_set false i p s
      have hstatus := (portRoutingModeUpdate_status env is_set false i p s).mpr
        ⟨hdone _, .inr (.inr ⟨hdone _, hdone _⟩)⟩
      unfold portListUpdateFrom
      generalize portRoutingModeUpdate _ _ i _ p s = x at hmode hstatus
      obtain ⟨status, t⟩ := x
      obtain rfl : status = .success := hstatus
      refine ⟨(ih (i + 1) t).1, fun q => ?_⟩
      have hq := (ih (i + 1) t).2 q
      have hp := hmode q
      simp only at hq hp ⊢
      rw [hq, hp]
      by_cases hmem : q ∈ list
      · simp [hmem]
      by_cases hqp : q = p
      · simp [hqp, PortDone, PortRead, hdone _]
      · simp [hmem, hqp]
  obtain ⟨hstatus, hmode⟩ := hfrom list 0 s
  unfold portListRoutingModeUpdate
  simp only
  rw [if_pos hstatus]
  exact ⟨hstatus, hmode⟩

theorem rifCreateObject_allDone (hdone : env.AllDone) {rif_obj_id}
    (htaken : RifRequestTaken env attr_list)
    (hon : ∀ rif, rifAttributesParse env attr_list (rifAttributesInit env) s = .ok rif →
      rif.OnLag lag_id) (hok : (rifCreateObject env rif_obj_id attr_list s).1.1 = .success) :
    ∃ rif t, let x := rifCreateObject env rif_obj_id attr_list s
      x.2 ≠ .null ∧ x.1.2.rif x.2 = some rif ∧ rif.attachment = lag_id ∧
      x.1.2.sai_map = s.sai_map ∧ NpuQuiet s t ∧
      (∃ rif', x.1.2.npu_log = t.npu_log ++ [(.rifCreate rif', .success)]) ∧
      ∀ q, x.1.2.port_fwd_mode q =
        if q ∈ env.lag_ports lag_id then .routing else s.port_fwd_mode q := by
  obtain ⟨rif, hc, -, htree, hmap, hid⟩ | ⟨-, hfail, -⟩ :=
    rifCreateObject_cases (s := s) rif_obj_id attr_list htaken
  · have hmode := ((rifCreateObject_mode env s rif_obj_id attr_list).2 rif
      ⟨htaken, hc.parse⟩).1 (.inr hc)
    obtain ⟨hlag, hatt⟩ := hon rif hc.parse
    obtain ⟨htype, hlagid⟩ : rif.type = .port ∧ rif.attachment.type = .lag := by
      simpa [rifIsAttachmentLag] using hlag
    have hquiet := (rifRoutingConfigUpdate_writes env rif true s).npuQuiet
    have hports : ∀ q, (rifRoutingConfigUpdate env rif true s).2.port_fwd_mode q =
        if q ∈ env.lag_ports lag_id then .routing else s.port_fwd_mode q := by
      have hrif : rifPorts env.lag_ports rif = env.lag_ports lag_id := by
        unfold rifPorts
        rw [if_neg (by simp [htype]), if_pos hlagid, hatt]
      obtain ⟨-, t, ht, heq⟩ | ⟨hno, -⟩ := rifRoutingConfigUpdate_ports env _ s
      · intro q
        rw [heq, (portListRoutingModeUpdate_allDone hdone _).2 q, hrif, ht]
        rfl
      · exact absurd (.inr (.inr (.inr ⟨hdone _, .inr (hdone _)⟩))) hno
    refine ⟨rif.named env,
      (rifRoutingConfigUpdate env rif true s).2, ?_, ?_, hatt, hmap, hquiet, ⟨rif, ?_⟩, fun q => ?_⟩
    · rw [hid]
      exact fun h => absurd (congrArg Oid.type h) (by simp [uoidCreate, Oid.null])
    · rw [hid]
      unfold Fib.rif
      rw [htree, List.find?_append]
      have hnew : s.router_interface_tree.find?
          (fun r => decide (r.rif_id = uoidCreate .routerInterface env.hw_id)) = none := hc.new
      rw [hnew]
      simp
    · -- behind the NPU call the log is as it was
      have hdoes := rifCreateObject_does (s := s) rif_obj_id hc.parse
      generalize rifCreateObject _ _ _ s = x at hdoes hok ⊢
      cases hdoes with
      | unrouted hconfig hrc => exact absurd hok hrc
      | refused hconfig hnpu => exact absurd hc.npu hnpu
      | unlisted hconfig hfull => cases hok
      | made hconfig hnpu hnew htree' =>
        have hlog : (rifListed env rif s).npu_log = ((rifRoutingConfigUpdate env rif true s).2.call env
            (.rifCreate rif)).2.npu_log := by
          unfold rifListed vrfRifListUpdate
          split <;> rfl
        rw [← hdone (.rifCreate rif)]
        exact hlog
    · rw [hmode]
      exact hports q
  · exact absurd hok hfail

theorem rifLagCallback_unmapped (hno : getRifIdFromLagId lag_id s = none)
    (port_list) (is_add : Bool) :
    (rifLagCallback env lag_id port_list is_add s).2 = s := by
  unfold rifLagCallback
  rw [hno]

theorem rifLagCallback_allDone (hdone : env.AllDone) {rif_id} {rif}
    (hmap : getRifIdFromLagId lag_id s = some rif_id) (hne : rif_id ≠ .null)
    (hrif : s.rif rif_id = some rif) (hon : rif.attachment = lag_id) (p) (is_add : Bool) :
    (∃ t, NpuQuiet t (rifLagCallback env lag_id [p] is_add s).2 ∧
      t.npu_log = s.npu_log ++ [(.rifLagMemberUpdate rif [p] is_add, .success)]) ∧
    ∀ q, (rifLagCallback env lag_id [p] is_add s).2.port_fwd_mode q =
      if q = p then routingMode is_add else s.port_fwd_mode q := by
  constructor
  · unfold rifLagCallback
    rw [hmap]
    simp only
    rw [if_neg hne]
    unfold rifLagMemberUpdate
    rw [if_neg (by simp), hrif]
    simp only
    rw [if_neg (by simpa using hon), andThen_of_success (x := s.call env _) (hdone _)]
    refine ⟨_, (portListRoutingModeUpdate_writes env [p] is_add _).npuQuiet, ?_⟩
    show s.npu_log ++ [(_, env.status _)] = _
    rw [hdone]
  · intro q
    have htold : MemberDone env lag_id p is_add s :=
      ⟨⟨rif_id, rif, hmap, hne, hrif, hon, hdone _⟩, hdone _, hdone _⟩
    have hmode := (rifLagCallback_mode env lag_id p is_add s).2 q
    by_cases hq : q = p
    · rw [hmode, if_pos ⟨hq, htold⟩, if_pos hq]
    · rw [hmode, if_neg fun h => hq h.1, if_neg hq]

end Done

/-! ## The LAG module -/

/-- The ports of the LAGs, and what the modules were told, at some point of a call. -/
structure LagMembersAre (base db : LagDb) (member : Oid → Oid → Prop) : Prop where
  ports : ∀ l p, (l, p) ∈ db.keys ↔ member l p
  events : db.events = base.events
  modules : db.lag_event = base.lag_event

namespace LagMembersAre

variable {base db : LagDb} {member : Oid → Oid → Prop}

theorem flagSet (h : LagMembersAre base db member) {env} {lag_id port_id}
    {is_ingress value : Bool} :
    LagMembersAre base (l2LagPortFlagSet env lag_id port_id is_ingress value db).2 member := by
  simp only [l2LagPortFlagSet]
  split
  · exact h
  generalize (if is_ingress = true then _ else _ : Bool) = old_value
  split
  · exact h
  split
  · refine ⟨fun l p => ?_, h.events, h.modules⟩
    have hkeys : ∀ db : LagDb, (db.setDisableStatus lag_id port_id is_ingress value).keys =
        db.keys := by
      intro db
      unfold LagDb.keys LagDb.setDisableStatus
      rw [List.map_map]
      refine List.map_congr_left fun q _ => ?_
      simp only [Function.comp_apply]
      split
      · split <;> rfl
      · rfl
    rw [hkeys]
    exact h.ports l p
  · exact ⟨h.ports, h.events, h.modules⟩

theorem memberFlag (h : LagMembersAre base db member) (env) (lag_id port_id)
    (is_ingress : Bool) (value) :
    LagMembersAre base (l2LagMemberFlag env lag_id port_id is_ingress value db).2 member := by
  cases value with
  | none => exact h
  | some value => exact h.flagSet

theorem removeLagPort (h : LagMembersAre base db member) (env) (lag_id port_id) :
    LagMembersAre base (l2RemoveLagPort env lag_id port_id db).2
      fun l p => member l p ∧ ¬(l = lag_id ∧ p = port_id) := by
  refine ⟨fun l p => ?_, h.events, h.modules⟩
  rw [← h.ports]
  simp only [LagDb.keys, l2RemoveLagPort, LagDb.portNodeRemove, List.mem_map, List.mem_filter,
    decide_eq_true_eq, Prod.mk.injEq]
  constructor
  · rintro ⟨q, ⟨hq, hne⟩, rfl, rfl⟩
    exact ⟨⟨q, hq, rfl, rfl⟩, hne⟩
  · rintro ⟨⟨q, hq, rfl, rfl⟩, hne⟩
    exact ⟨q, ⟨hq, hne⟩, rfl, rfl⟩

end LagMembersAre

/-- **Create of a member**, up to the unlocking: the port joins, or nothing happens. -/
theorem l2CreateLagMemberLocked_members {env} {lag port_id}
    {ing_disable egr_disable} {base db}
    (h : LagMembersAre base db fun l p => (l, p) ∈ base.keys) :
    let x := l2CreateLagMemberLocked env lag port_id ing_disable egr_disable db
    (x.1 ≠ .success ∧ LagMembersAre base x.2 fun l p => (l, p) ∈ base.keys) ∨
    (x.1 = .success ∧ LagMembersAre base x.2 fun l p =>
      (l, p) ∈ base.keys ∨ (l = lag ∧ p = port_id)) := by
  simp only [l2CreateLagMemberLocked]
  split
  next hfail => exact .inl ⟨hfail, h⟩
  rename_i hvalid
  have hnew := (l2ValidateLagPortAdd_success (not_not.mp hvalid)).2
  rw [h.ports] at hnew
  -- a port that joins and leaves again
  have hundo : ∀ db', LagMembersAre base db' (fun l p =>
      ((l, p) ∈ base.keys ∨ (l = lag ∧ p = port_id)) ∧ ¬(l = lag ∧ p = port_id)) →
      LagMembersAre base db' fun l p => (l, p) ∈ base.keys := by
    intro db' h'
    refine ⟨fun l p => (h'.ports l p).trans ⟨?_, fun hin => ⟨.inl hin, ?_⟩⟩, h'.events, h'.modules⟩
    · rintro ⟨hin | hyes, hno⟩
      · exact hin
      · exact absurd hyes hno
    · rintro ⟨rfl, rfl⟩
      exact hnew hin
  simp only [l2AddLagPort]
  by_cases ha : (db.call env (.addPort lag port_id)).1 ≠ .success
  · rw [if_pos ha, if_pos ha]
    exact .inl ⟨ha, h.ports, h.events, h.modules⟩
  rw [if_neg ha]
  have hadd : LagMembersAre base (db.call env (.addPort lag port_id)).2 fun l p =>
      (l, p) ∈ base.keys := ⟨h.ports, h.events, h.modules⟩
  generalize (db.call _ _).2 = a at hadd ⊢
  obtain ⟨hb, hnode⟩ | hnode := a.portNodeAdd_cases env lag port_id env.npu_member_id
  · rw [hnode]
    dsimp only
    rw [if_pos hb, if_pos hb]
    exact .inl ⟨hb, hadd.ports, hadd.events, hadd.modules⟩
  rw [hnode]
  dsimp only
  rw [if_neg fun hno : Status.success ≠ Status.success => hno rfl,
    if_neg fun hno : Status.success ≠ Status.success => hno rfl]
  have hin : LagMembersAre base { (a.call env (.portNodeAdd lag port_id)).2 with
      ports := ⟨lag, port_id, env.npu_member_id, false, false⟩ :: a.ports } fun l p =>
      (l, p) ∈ base.keys ∨ (l = lag ∧ p = port_id) := by
    refine ⟨fun l p => ?_, hadd.events, hadd.modules⟩
    show (l, p) ∈ (lag, port_id) :: a.keys ↔ _
    rw [List.mem_cons, Prod.mk.injEq, hadd.ports]
    exact or_comm
  generalize ({ (a.call env (.portNodeAdd lag port_id)).2 with
    ports := ⟨lag, port_id, env.npu_member_id, false, false⟩ :: a.ports } : LagDb) = b at hin ⊢
  have hing := hin.memberFlag env lag port_id true ing_disable
  generalize l2LagMemberFlag _ _ _ _ _ b = x at hing ⊢
  have hegr := hing.memberFlag env lag port_id false egr_disable
  have hboth : LagMembersAre base (if x.1 ≠ .success then x
      else l2LagMemberFlag env lag port_id false egr_disable x.2).2 fun l p =>
      (l, p) ∈ base.keys ∨ (l = lag ∧ p = port_id) := by
    split
    · exact hing
    · exact hegr
  generalize (if x.1 ≠ .success then x
    else l2LagMemberFlag env lag port_id false egr_disable x.2) = d at hboth ⊢
  split
  next hfail => exact .inl ⟨hfail, hundo _ (hboth.removeLagPort env lag port_id)⟩
  next hrc => exact .inr ⟨not_not.mp hrc, hboth⟩

def LagOp.IsMember : LagOp → Prop
  | .memberCreate _ => True
  | .memberRemove _ => True
  | _ => False

/-- **A change of the members is told** to every module that has registered. -/
theorem lagStep_told {c} {db} {module_id : Nat} (hc : c.op.IsMember)
    (hmodule : module_id ∈ db.lag_event) {lag_id} :
    (lagStep c db).lag_event = db.lag_event ∧
    ∀ p, (∀ x ∈ ((lagStep c db).events.drop db.events.length).flatMap
        (memberChanges module_id lag_id), x.port_id ≠ p) →
      (lagStep c db).isPortLagMember lag_id p = db.isPortLagMember lag_id p := by
  -- a step that changes one port, and tells of it
  have htold : ∀ (db' : LagDb) (l q : Oid) (is_add : Bool) (oper : LagOper),
      (oper = .addPorts [q] ∧ is_add = true ∨ oper = .delPorts [q] ∧ is_add = false) →
      db'.events = db.events →  db'.lag_event = db.lag_event →
      (∀ l' p, ¬(l' = l ∧ p = q) → ((l', p) ∈ db'.keys ↔ (l', p) ∈ db.keys)) →
      (lagNotifyModules l oper db').lag_event = db.lag_event ∧
      ∀ p, (∀ x ∈ ((lagNotifyModules l oper db').events.drop db.events.length).flatMap
          (memberChanges module_id lag_id), x.port_id ≠ p) →
        (lagNotifyModules l oper db').isPortLagMember lag_id p = db.isPortLagMember lag_id p := by
    intro db' l q is_add oper hoper hevents hmodules hother
    refine ⟨hmodules, fun p hp => ?_⟩
    rw [Bool.eq_iff_iff, LagDb.isPortLagMember_iff, LagDb.isPortLagMember_iff]
    refine hother lag_id p ?_
    rintro ⟨rfl, rfl⟩
    refine hp ⟨p, is_add⟩ ?_ rfl
    have hnew : (lagNotifyModules lag_id oper db').events.drop db.events.length =
        db.lag_event.map fun m => ⟨m, lag_id, oper⟩ := by
      show (db'.events ++ _).drop _ = _
      rw [hevents, hmodules, List.drop_left]
    rw [hnew, List.mem_flatMap]
    refine ⟨⟨module_id, lag_id, oper⟩, List.mem_map.mpr ⟨module_id, hmodule, rfl⟩, ?_⟩
    obtain ⟨rfl, rfl⟩ | ⟨rfl, rfl⟩ := hoper <;> simp [memberChanges]
  have hquiet : ∀ db' : LagDb, LagMembersAre db db' (fun l p => (l, p) ∈ db.keys) →
      db'.lag_event = db.lag_event ∧
      ∀ p, (∀ x ∈ (db'.events.drop db.events.length).flatMap (memberChanges module_id lag_id),
          x.port_id ≠ p) → db'.isPortLagMember lag_id p = db.isPortLagMember lag_id p := by
    intro db' h
    refine ⟨h.modules, fun p _ => ?_⟩
    rw [Bool.eq_iff_iff, LagDb.isPortLagMember_iff, LagDb.isPortLagMember_iff]
    exact h.ports _ p
  have hlock : LagMembersAre db db.lock fun l p => (l, p) ∈ db.keys := ⟨fun _ _ => .rfl, rfl, rfl⟩
  have hunlock : ∀ (db' : LagDb) (member : Oid → Oid → Prop), LagMembersAre db db' member →
      LagMembersAre db db'.unlock member := fun _ _ h => ⟨h.ports, h.events, h.modules⟩
  obtain ⟨env, op⟩ := c
  cases op with
  | memberCreate attr_list =>
    have hexec : lagStep ⟨env, .memberCreate attr_list⟩ db =
        (l2CreateLagMember env attr_list db).2 := rfl
    rw [hexec]
    unfold l2CreateLagMember
    split
    · exact hquiet db ⟨fun _ _ => .rfl, rfl, rfl⟩
    next lag port_id ing_disable egr_disable _ =>
      have hlocked := @l2CreateLagMemberLocked_members env lag port_id ing_disable egr_disable db
        db.lock hlock
      simp only at hlocked ⊢
      generalize l2CreateLagMemberLocked _ _ _ _ _ _ = x at hlocked ⊢
      obtain ⟨hfail, h⟩ | ⟨hrc, h⟩ := hlocked
      · rw [if_neg hfail]
        exact hquiet _ (hunlock _ _ h)
      rw [if_pos hrc]
      refine htold x.2.unlock lag port_id true _ (.inl ⟨rfl, rfl⟩) h.events h.modules ?_
      intro l p hne
      exact (h.ports l p).trans (or_iff_left hne)
    · exact hquiet db ⟨fun _ _ => .rfl, rfl, rfl⟩
  | memberRemove member_id =>
    have hexec : lagStep ⟨env, .memberRemove member_id⟩ db =
        (l2RemoveLagMember env member_id db).2 := rfl
    rw [hexec]
    unfold l2RemoveLagMember
    simp only
    split
    · exact hquiet _ (hunlock _ _ hlock)
    rename_i q _
    split
    · exact hquiet _ (hunlock _ _ hlock)
    split
    · exact hquiet _ (hunlock _ _ hlock)
    split
    · exact hquiet _ (hunlock _ _ hlock)
    have h := hlock.removeLagPort env q.lag_id q.port_id
    refine htold _ q.lag_id q.port_id false _ (.inr ⟨rfl, rfl⟩) h.events h.modules ?_
    intro l p hne
    exact (h.ports l p).trans (and_iff_left hne)
  | create => exact hc.elim
  | remove => exact hc.elim
  | set => exact hc.elim
  | get => exact hc.elim
  | memberSet => exact hc.elim
  | memberGet => exact hc.elim

/-! ## The property and the condition -/

structure RifLagStart (lag_id : Oid) (σ : RifLagSys) : Prop where
  unmapped : getRifIdFromLagId lag_id σ.fib = none
  nowhere : ∀ p, σ.rif_ports p = false
  waiting : σ.create = .waiting
  told : σ.changes = []
  registered : σ.module_id ∈ σ.lag.lag_event

/-- The members of the LAG are in routing mode and have the router interface in the NPU. No other
port has it, or is in routing mode without having been so at the start. -/
structure LagPortsRouted (lag_id : Oid) (σ₀ σ : RifLagSys) : Prop where
  member : ∀ p, σ.lag.isPortLagMember lag_id p = true →
    σ.fib.port_fwd_mode p = .routing ∧ σ.rif_ports p = true
  other : ∀ p, σ.lag.isPortLagMember lag_id p = false →
    (σ.fib.port_fwd_mode p = .routing → σ₀.fib.port_fwd_mode p = .routing) ∧ σ.rif_ports p = false

/-- The step is one of the create call of a router interface on the LAG, or of the create or remove
of a member of the LAG, and the outside does what it is asked. -/
def RifLagOn (lag_id : Oid) (op : RifLagOp) (σ : RifLagSys) : Prop :=
  match op with
  | .rifObject env _ attr_list => env.AllDone ∧ getLagIdFromAttr attr_list = some lag_id ∧
      ∀ rif, rifAttributesParse (σ.outside env) attr_list (rifAttributesInit (σ.outside env)) σ.fib =
        .ok rif → rif.OnLag lag_id
  | .rifMapping env => env.AllDone
  | .member c => c.op.IsMember ∧ (∀ x, lagEventOf c σ.lag = some x → x.1 = lag_id) ∧
      ∀ log x, c.env.outside log x = .success
  | .callback env _ => env.AllDone

/-- The condition on the callback for a port: the router interface is not there yet; another callback
for the port is still to come; or the callback leaves the port as it should be, which takes the map
entry, or that there is nothing to do. -/
def MemberChangeOk (lag_id : Oid) (x : MemberChange) (changes : List MemberChange)
    (σ : RifLagSys) : Prop :=
  σ.create = .waiting ∨ (∃ y ∈ changes, y.port_id = x.port_id) ∨
    match getRifIdFromLagId lag_id σ.fib with
    | none => σ.rif_ports x.port_id = σ.lag.isPortLagMember lag_id x.port_id
    | some _ => x.is_add = σ.lag.isPortLagMember lag_id x.port_id

def RifLagOk (lag_id : Oid) (op : RifLagOp) (σ : RifLagSys) : Prop :=
  RifLagOn lag_id op σ ∧
    match op with
    | .callback _ i => ∀ x, σ.changes[i]? = some x →
        MemberChangeOk lag_id x (σ.changes.eraseIdx i) σ
    | _ => True

/-! ## The steps -/

/-- The router interface is there, and on the ports that it should be, but for those whose callback
is still to come. -/
structure RifLagMade (lag_id rif_id : Oid) (σ₀ σ : RifLagSys) : Prop where
  there : ∃ rif, σ.fib.rif rif_id = some rif ∧ rif.attachment = lag_id
  typed : rif_id ≠ .null
  routing : ∀ p, σ.rif_ports p = true → σ.fib.port_fwd_mode p = .routing
  before : ∀ p, σ.rif_ports p = false → σ.fib.port_fwd_mode p = .routing →
    σ₀.fib.port_fwd_mode p = .routing
  settled : ∀ p, (∀ x ∈ σ.changes, x.port_id ≠ p) →
    σ.rif_ports p = σ.lag.isPortLagMember lag_id p

def RifLagAt (lag_id : Oid) (σ₀ σ : RifLagSys) : Prop :=
  match σ.create with
  | .waiting => σ.fib = σ₀.fib ∧ ∀ p, σ.rif_ports p = false
  | .made status rif_id => status = .success →
      RifLagMade lag_id rif_id σ₀ σ ∧ getRifIdFromLagId lag_id σ.fib = none
  | .finished status => status = .success → ∃ rif_id, RifLagMade lag_id rif_id σ₀ σ ∧
      ∀ id, getRifIdFromLagId lag_id σ.fib = some id → id = rif_id

/-- The invariant of a run that began in `σ₀`. -/
structure RifLagInv (lag_id : Oid) (σ₀ σ : RifLagSys) : Prop where
  registered : σ.module_id ∈ σ.lag.lag_event
  at_create : RifLagAt lag_id σ₀ σ

theorem RifLagSys.setFib_ports {t u}
    {x} (hst : NpuQuiet σ.fib s) (ht : t.npu_log = s.npu_log ++ x)
    (htu : NpuQuiet t u) : (σ.setFib lag_id u).rif_ports =
      x.foldl (npuRifPorts fun p => σ.lag.isPortLagMember lag_id p) σ.rif_ports := by
  obtain ⟨log, hlog, hports⟩ := hst
  obtain ⟨log', hlog', hports'⟩ := htu
  have hdrop : u.npu_log.drop σ.fib.npu_log.length = log ++ (x ++ log') := by
    rw [hlog', ht, hlog]
    simp only [List.append_assoc]
    rw [List.drop_left]
  unfold RifLagSys.setFib
  simp only
  rw [hdrop, List.foldl_append, List.foldl_append, hports, hports']

theorem LagDb.mem_portList {lag_id p : Oid} {db : LagDb} :
    p ∈ db.portList lag_id ↔ db.isPortLagMember lag_id p = true := by
  simp only [LagDb.portList, LagDb.isPortLagMember, List.mem_map, List.mem_filter, List.any_eq_true,
    decide_eq_true_eq]
  constructor
  · rintro ⟨q, ⟨hq, hlag⟩, rfl⟩
    exact ⟨q, hq, hlag, rfl⟩
  · rintro ⟨q, hq, hlag, rfl⟩
    exact ⟨q, ⟨hq, hlag⟩, rfl⟩

theorem MemberChange.ne_of_eraseIdx {changes : List MemberChange} {x : MemberChange} {p : Oid}
    (hx : changes[i]? = some x) (hp : ∀ y ∈ changes.eraseIdx i, y.port_id ≠ p) (hne : x.port_id ≠ p) :
    ∀ y ∈ changes, y.port_id ≠ p := by
  intro y hy
  by_cases hyx : y = x
  · rw [hyx]
    exact hne
  refine hp y ?_
  obtain ⟨j, hj, hjy⟩ := List.mem_iff_getElem.mp hy
  refine List.mem_eraseIdx_iff_getElem.mpr ⟨j, hj, ?_, hjy⟩
  rintro rfl
  rw [List.getElem?_eq_getElem hj, hjy] at hx
  exact hyx (Option.some.inj hx)

theorem RifLagSys.setFib_unmapped
    (hno : getRifIdFromLagId lag_id σ.fib = none) (env : Env) (x : MemberChange) :
    (rifLagCallback env lag_id [x.port_id] x.is_add σ.fib).2 = σ.fib ∧
    (σ.setFib lag_id (rifLagCallback env lag_id [x.port_id] x.is_add σ.fib).2).rif_ports =
      σ.rif_ports := by
  have hfib : (rifLagCallback env lag_id [x.port_id] x.is_add σ.fib).2 = σ.fib :=
    rifLagCallback_unmapped hno _ _
  refine ⟨hfib, ?_⟩
  rw [hfib]
  exact RifLagSys.setFib_ports (x := []) (.of_same rfl) (List.append_nil _).symm (.of_same rfl)

theorem RifLagMade.told {rif_id : Oid} {σ₀ τ : RifLagSys} {x : MemberChange}
    (h : RifLagMade lag_id rif_id σ₀ σ) (hx : σ.changes[i]? = some x) (hlag : τ.lag = σ.lag)
    (hchanges : τ.changes = σ.changes.eraseIdx i) (hrif : τ.fib.rif rif_id = σ.fib.rif rif_id)
    (hother : ∀ p, p ≠ x.port_id → τ.rif_ports p = σ.rif_ports p ∧
      τ.fib.port_fwd_mode p = σ.fib.port_fwd_mode p)
    (hrouting : τ.rif_ports x.port_id = true → τ.fib.port_fwd_mode x.port_id = .routing)
    (hbefore : τ.rif_ports x.port_id = false → τ.fib.port_fwd_mode x.port_id = .routing →
      σ₀.fib.port_fwd_mode x.port_id = .routing)
    (hsettled : (∀ y ∈ σ.changes.eraseIdx i, y.port_id ≠ x.port_id) →
      τ.rif_ports x.port_id = σ.lag.isPortLagMember lag_id x.port_id) :
    RifLagMade lag_id rif_id σ₀ τ := by
  refine ⟨?_, h.typed, fun p hp => ?_, fun p hp hr => ?_, fun p hp => ?_⟩
  · rw [hrif]
    exact h.there
  · by_cases hne : p = x.port_id
    · subst hne
      exact hrouting hp
    · rw [(hother p hne).2]
      exact h.routing p ((hother p hne).1 ▸ hp)
  · by_cases hne : p = x.port_id
    · subst hne
      exact hbefore hp hr
    · rw [(hother p hne).2] at hr
      exact h.before p ((hother p hne).1 ▸ hp) hr
  · rw [hchanges] at hp
    rw [hlag]
    by_cases hne : p = x.port_id
    · subst hne
      exact hsettled hp
    · rw [(hother p hne).1]
      exact h.settled p (MemberChange.ne_of_eraseIdx hx hp (Ne.symm hne))

namespace RifLagInv

variable {σ₀ : RifLagSys}

theorem rifObject (h : RifLagInv lag_id σ₀ σ) (hs : RifLagStart lag_id σ₀) {rif_obj_id : Oid}
    (hok : RifLagOn lag_id (.rifObject env rif_obj_id attr_list) σ) (hwait : σ.create = .waiting) :
    RifLagInv lag_id σ₀ (rifLagStep lag_id (.rifObject env rif_obj_id attr_list) σ) := by
  have hat := h.at_create
  unfold RifLagAt at hat
  rw [hwait] at hat
  obtain ⟨hfib, hnone⟩ := hat
  simp only [rifLagStep, hwait]
  split
  · exact ⟨h.registered, fun hno => absurd hno (by simp)⟩
  rename_i hcount
  split
  · exact ⟨h.registered, fun hno => absurd hno (by simp)⟩
  rename_i hnode
  refine ⟨h.registered, fun hrc => ?_⟩
  have htaken : RifRequestTaken (σ.outside env) attr_list := by
    refine ⟨by omega, by omega, ?_⟩
    show env.avail .rifNode = true
    simpa using hnode
  have hdone : (σ.outside env).AllDone := hok.1
  obtain ⟨rif, t, hne, hrif, hon, hmap, hquiet, ⟨rif', hlog⟩, hmode⟩ :=
    rifCreateObject_allDone hdone htaken hok.2.2 hrc
  have hports : (σ.setFib lag_id
      (rifCreateObject (σ.outside env) rif_obj_id attr_list σ.fib).1.2).rif_ports =
      fun p => σ.lag.isPortLagMember lag_id p :=
    RifLagSys.setFib_ports hquiet hlog (.of_same rfl)
  have hmember : ∀ p, p ∈ (σ.outside env).lag_ports lag_id ↔ σ.lag.isPortLagMember lag_id p = true :=
    fun p => LagDb.mem_portList
  refine ⟨⟨⟨rif, hrif, hon⟩, hne, fun p hp => ?_, fun p hp hrouting => ?_, fun p _ => ?_⟩, ?_⟩
  · refine (hmode p).trans (if_pos ((hmember p).mpr ?_))
    rw [← congrFun hports p]
    exact hp
  · have hno : p ∉ (σ.outside env).lag_ports lag_id := by
      rw [hmember, ← congrFun hports p]
      exact fun hyes => absurd (hyes.symm.trans hp) (by simp)
    rw [← hfib, ← (hmode p).trans (if_neg hno)]
    exact hrouting
  · exact congrFun hports p
  · have hget : getRifIdFromLagId lag_id
        (rifCreateObject (σ.outside env) rif_obj_id attr_list σ.fib).1.2 =
        getRifIdFromLagId lag_id σ.fib := by
      unfold getRifIdFromLagId
      rw [hmap]
    refine hget.trans ?_
    rw [hfib]
    exact hs.unmapped

theorem rifMapping (h : RifLagInv lag_id σ₀ σ) {env} :
    RifLagInv lag_id σ₀ (rifLagStep lag_id (.rifMapping env) σ) := by
  have hat := h.at_create
  unfold RifLagAt at hat
  simp only [rifLagStep]
  split
  next status rif_id hmade =>
    rw [hmade] at hat
    refine ⟨h.registered, fun hrc => ⟨rif_id, ?_⟩⟩
    obtain ⟨hmade', hnone⟩ := hat hrc
    have hframe : (lagRifMappingInsert env lag_id rif_id σ.fib).2.npu_log = σ.fib.npu_log ∧
        (lagRifMappingInsert env lag_id rif_id σ.fib).2.router_interface_tree =
          σ.fib.router_interface_tree := by
      unfold lagRifMappingInsert saiMapInsert
      split
      · exact ⟨rfl, rfl⟩
      · exact ⟨rfl, rfl⟩
    have hmode := lagRifMappingInsert_mode env lag_id rif_id σ.fib
    have hports : (σ.setFib lag_id (lagRifMappingInsert env lag_id rif_id σ.fib).2).rif_ports =
        σ.rif_ports := by
      refine RifLagSys.setFib_ports (x := []) (.of_same rfl) ?_ (.of_same rfl)
      rw [hframe.1, List.append_nil]
    refine ⟨⟨?_, hmade'.typed, fun p hp => ?_, fun p hp hrouting => ?_, fun p hp => ?_⟩, ?_⟩
    · obtain ⟨rif, hrif, hon⟩ := hmade'.there
      refine ⟨rif, ?_, hon⟩
      show (lagRifMappingInsert env lag_id rif_id σ.fib).2.rif rif_id = some rif
      unfold Fib.rif
      rw [hframe.2]
      exact hrif
    · rw [congrFun hports p] at hp
      exact (congrFun hmode p).trans (hmade'.routing p hp)
    · rw [congrFun hports p] at hp
      exact hmade'.before p hp ((congrFun hmode p).symm.trans hrouting)
    · exact (congrFun hports p).trans (hmade'.settled p hp)
    · intro id hid
      have hget : getRifIdFromLagId lag_id (lagRifMappingInsert env lag_id rif_id σ.fib).2 =
          some id := hid
      by_cases havail : env.avail .lagRifMap = true
      · rw [getRifIdFromLagId_insert havail, if_pos rfl, hnone] at hget
        exact (Option.some.inj hget).symm
      unfold lagRifMappingInsert saiMapInsert at hget
      rw [if_neg havail, hnone] at hget
      cases hget
  · exact h

theorem member (h : RifLagInv lag_id σ₀ σ) {c} (hc : c.op.IsMember) :
    RifLagInv lag_id σ₀ (rifLagStep lag_id (.member c) σ) := by
  obtain ⟨hmodules, hsame⟩ := lagStep_told hc h.registered
  have hmade : ∀ rif_id, RifLagMade lag_id rif_id σ₀ σ →
      RifLagMade lag_id rif_id σ₀ (rifLagStep lag_id (.member c) σ) := by
    intro rif_id hmade
    refine ⟨hmade.there, hmade.typed, hmade.routing, hmade.before, fun p hp => ?_⟩
    have hbefore := hmade.settled p fun x hx => hp x (List.mem_append_left _ hx)
    exact hbefore.trans (hsame p fun x hx => hp x (List.mem_append_right _ hx)).symm
  refine ⟨?_, ?_⟩
  · show σ.module_id ∈ (lagStep c σ.lag).lag_event
    rw [hmodules]
    exact h.registered
  · have hat := h.at_create
    unfold RifLagAt at hat ⊢
    show match σ.create with
      | .waiting => _
      | .made status rif_id => _
      | .finished status => _
    split
    next hwait =>
      rw [hwait] at hat
      exact hat
    next status rif_id hcreate =>
      rw [hcreate] at hat
      exact fun hrc => ⟨hmade rif_id (hat hrc).1, (hat hrc).2⟩
    rename_i status hcreate
    rw [hcreate] at hat
    intro hrc
    obtain ⟨rif_id, hm, hmap⟩ := hat hrc
    exact ⟨rif_id, hmade rif_id hm, hmap⟩

theorem callback_waiting (h : RifLagInv lag_id σ₀ σ) (hs : RifLagStart lag_id σ₀)
    (hwait : σ.create = .waiting) : RifLagInv lag_id σ₀ (rifLagStep lag_id (.callback env i) σ) := by
  have hat := h.at_create
  unfold RifLagAt at hat
  rw [hwait] at hat
  obtain ⟨hfib, hnone⟩ := hat
  simp only [rifLagStep]
  split
  · exact h
  rename_i x hx
  have hno : getRifIdFromLagId lag_id σ.fib = none := by
    rw [hfib]
    exact hs.unmapped
  obtain ⟨hsame, hports⟩ := RifLagSys.setFib_unmapped (σ := σ) hno env x
  refine ⟨h.registered, ?_⟩
  unfold RifLagAt
  show match σ.create with
    | .waiting => _
    | .made status rif_id => _
    | .finished status => _
  rw [hwait]
  refine ⟨hsame.trans hfib, fun p => ?_⟩
  exact (congrFun hports p).trans (hnone p)

theorem callback (h : RifLagInv lag_id σ₀ σ)
    (hok : RifLagOk lag_id (.callback env i) σ) (hmade : σ.create ≠ .waiting) :
    RifLagInv lag_id σ₀ (rifLagStep lag_id (.callback env i) σ) := by
  obtain ⟨hdone, hok⟩ := hok
  have hdone : env.AllDone := hdone
  have hat := h.at_create
  unfold RifLagAt at hat
  simp only [rifLagStep]
  split
  · exact h
  rename_i x hx
  have hchange := (hok x hx).resolve_left hmade
  refine ⟨h.registered, ?_⟩
  -- no map entry is found: the port is right already, or told of again
  have hlost : ∀ rif_id, RifLagMade lag_id rif_id σ₀ σ → getRifIdFromLagId lag_id σ.fib = none →
      RifLagMade lag_id rif_id σ₀
        { σ.setFib lag_id (rifLagCallback env lag_id [x.port_id] x.is_add σ.fib).2 with
          changes := σ.changes.eraseIdx i } := by
    intro rif_id hm hno
    obtain ⟨hsame, hports⟩ := RifLagSys.setFib_unmapped (σ := σ) hno env x
    refine hm.told hx rfl rfl ?_ (fun p _ => ⟨congrFun hports p, ?_⟩) ?_ ?_ fun hlast => ?_
    · show Fib.rif (rifLagCallback env lag_id [x.port_id] x.is_add σ.fib).2 rif_id = _
      rw [hsame]
    · show Fib.port_fwd_mode (rifLagCallback env lag_id [x.port_id] x.is_add σ.fib).2 p = _
      rw [hsame]
    · intro hr
      show Fib.port_fwd_mode (rifLagCallback env lag_id [x.port_id] x.is_add σ.fib).2 x.port_id = _
      rw [hsame]
      exact hm.routing _ ((congrFun hports _).symm.trans hr)
    · intro hr hrouting
      refine hm.before _ ((congrFun hports _).symm.trans hr) ?_
      rw [← hsame]
      exact hrouting
    · refine (congrFun hports _).trans ?_
      obtain ⟨y, hy, hyx⟩ | hright := hchange
      · exact absurd hyx (hlast y hy)
      · rw [hno] at hright
        exact hright
  unfold RifLagAt
  show match σ.create with
    | .waiting => _
    | .made status rif_id => _
    | .finished status => _
  split
  next hwait => exact absurd hwait hmade
  next status rif_id hcreate =>
    rw [hcreate] at hat
    intro hrc
    obtain ⟨hm, hno⟩ := hat hrc
    refine ⟨hlost rif_id hm hno, ?_⟩
    show getRifIdFromLagId lag_id (rifLagCallback env lag_id [x.port_id] x.is_add σ.fib).2 = none
    rw [rifLagCallback_unmapped hno]
    exact hno
  next status hcreate =>
    rw [hcreate] at hat
    intro hrc
    obtain ⟨rif_id, hm, hmap⟩ := hat hrc
    refine ⟨rif_id, ?_, fun id hid => hmap id ?_⟩
    · cases hget : getRifIdFromLagId lag_id σ.fib with
      | none => exact hlost rif_id hm hget
      | some id =>
        obtain rfl := hmap id hget
        obtain ⟨rif, hrif, hon⟩ := hm.there
        obtain ⟨⟨t, hquiet, hlog⟩, hmode⟩ :=
          rifLagCallback_allDone hdone hget hm.typed hrif hon _ _
        have hports : (σ.setFib lag_id
            (rifLagCallback env lag_id [x.port_id] x.is_add σ.fib).2).rif_ports =
            fun p => if p = x.port_id then x.is_add else σ.rif_ports p := by
          rw [RifLagSys.setFib_ports (.of_same rfl) hlog hquiet]
          simp [npuRifPorts]
        have hport := hmode x.port_id
        rw [if_pos rfl] at hport
        have hhere := congrFun hports x.port_id
        rw [if_pos rfl] at hhere
        refine hm.told hx rfl rfl ?_ (fun p hp => ⟨?_, ?_⟩) (fun hr => ?_) (fun hr hrouting => ?_)
          fun hlast => ?_
        · exact (rifLagCallback_mode env _ _ _ _).1.rif id
        · exact (congrFun hports p).trans (if_neg hp)
        · exact (hmode p).trans (if_neg hp)
        · have hadd : x.is_add = true := hhere.symm.trans hr
          refine hport.trans ?_
          rw [hadd]
          rfl
        · have hdel : x.is_add = false := hhere.symm.trans hr
          have hset : routingMode x.is_add = .routing := hport.symm.trans hrouting
          rw [hdel] at hset
          exact absurd hset (by simp [routingMode])
        · refine hhere.trans ?_
          obtain ⟨y, hy, hyx⟩ | hright := hchange
          · exact absurd hyx (hlast y hy)
          · rw [hget] at hright
            exact hright
    · rw [← hid]
      exact ((rifLagCallback_mode env _ _ _ _).1.rifIdFromLagId _).symm

theorem step (h : RifLagInv lag_id σ₀ σ) (hs : RifLagStart lag_id σ₀) {op}
    (hok : RifLagOk lag_id op σ) : RifLagInv lag_id σ₀ (rifLagStep lag_id op σ) := by
  cases op with
  | rifObject env rif_obj_id attr_list =>
    by_cases hwait : σ.create = .waiting
    · exact h.rifObject hs hok.1 hwait
    have hnone : rifLagStep lag_id (.rifObject env rif_obj_id attr_list) σ = σ := by
      simp only [rifLagStep]
    rw [hnone]
    exact h
  | rifMapping env => exact h.rifMapping
  | member c => exact h.member hok.1.1
  | callback env i =>
    by_cases hwait : σ.create = .waiting
    · exact h.callback_waiting hs hwait
    · exact h.callback hok hwait

end RifLagInv

/-- **Ports of the LAG**: when the create call has succeeded and every callback has been made, the
router interface is on the members of the LAG, if every step met the condition. -/
theorem lagPortsRouted_of_run {lag_id : Oid} {σ₀ σ : RifLagSys} (hs : RifLagStart lag_id σ₀)
    (hrun : Run (rifLagStep lag_id) (RifLagOk lag_id) σ₀ σ) (hcreate : σ.create = .finished .success)
    (htold : σ.changes = []) : LagPortsRouted lag_id σ₀ σ := by
  have hinv : RifLagInv lag_id σ₀ σ := by
    refine hrun.induct (P := RifLagInv lag_id σ₀) (fun op τ h hok => h.step hs hok) ⟨hs.registered, ?_⟩
    unfold RifLagAt
    rw [hs.waiting]
    exact ⟨rfl, hs.nowhere⟩
  have hat := hinv.at_create
  unfold RifLagAt at hat
  rw [hcreate] at hat
  obtain ⟨rif_id, hm, -⟩ := hat rfl
  have hsettled : ∀ p, σ.rif_ports p = σ.lag.isPortLagMember lag_id p := by
    intro p
    refine hm.settled p fun x hx => ?_
    rw [htold] at hx
    exact absurd hx List.not_mem_nil
  refine ⟨fun p hp => ?_, fun p hp => ?_⟩
  · rw [← hsettled] at hp
    exact ⟨hm.routing p hp, hp⟩
  · rw [← hsettled] at hp
    exact ⟨hm.before p hp, hp⟩

def lag5 : RifLagSys where
  module_id := 3
  fib := oneVr
  lag := lagStep ⟨.good ⟨.lag, 5⟩ ⟨.lagMember, 1⟩, .create []⟩ (.initial [3])
  rif_ports := fun _ => false
  create := .waiting
  changes := []

def rifOnLag5 : RifLagOp := .rifObject (Env.good 1) .null (onLag5 1 7)

def port6Joins : RifLagOp :=
  .member ⟨.good ⟨.lag, 5⟩ ⟨.lagMember, 6⟩, .memberCreate [.lagId ⟨.lag, 5⟩, .portId ⟨.port, 6⟩]⟩

theorem rifLagStart_lag5 : RifLagStart ⟨.lag, 5⟩ lag5 :=
  ⟨rfl, fun _ => rfl, rfl, rfl, List.mem_singleton.mpr rfl⟩

theorem rifLagOn_lag5 (σ) (hσ : σ.fib = oneVr) : RifLagOn ⟨.lag, 5⟩ rifOnLag5 σ := by
  refine ⟨fun _ => rfl, rfl, fun rif hparse => ?_⟩
  rw [hσ] at hparse
  have hparse' : rifAttributesParse (σ.outside (Env.good 1)) (onLag5 1 7)
      (rifAttributesInit (σ.outside (Env.good 1))) oneVr = .ok
      (rifInheritVrfAttributes ⟨{ rifAttributesInit (Env.good 1) with
        vrf_id := ⟨.virtualRouter, 1⟩, type := .port, attachment := ⟨.lag, 5⟩, src_mac := 7 },
        true, false, true, .port, true, false, false⟩ oneVr) := by rfl
  rw [← Except.ok.inj (hparse'.symm.trans hparse)]
  decide

theorem lagPortsRouted_of_run_lag5 :
    let op := rifLagStep ⟨.lag, 5⟩
    LagPortsRouted ⟨.lag, 5⟩ lag5 (op (.callback (Env.good 1) 0) (op (.rifMapping (Env.good 1))
      (op port6Joins (op rifOnLag5 lag5)))) := by
  intro op
  refine lagPortsRouted_of_run rifLagStart_lag5
    (.snoc _ (.snoc _ (.snoc _ (.snoc _ (.nil _) ?_) ?_) ?_) ?_) ?_ ?_
  · exact ⟨rifLagOn_lag5 _ rfl, trivial⟩
  · refine ⟨⟨trivial, fun x hx => ?_, fun _ _ => rfl⟩, trivial⟩
    cases hx
    rfl
  · exact ⟨fun _ => rfl, trivial⟩
  · refine ⟨fun _ => rfl, fun x hx => .inr (.inr ?_)⟩
    obtain rfl : ⟨⟨.port, 6⟩, true⟩ = x := Option.some.inj hx
    rfl
  · rfl
  · rfl

/-- The port joins and is told of before there is a map entry: it is not put into routing mode. -/
theorem not_lagPortsRouted_lag5 :
    ¬ ∀ lag_id σ₀ σ, RifLagStart lag_id σ₀ → Run (rifLagStep lag_id) (RifLagOn lag_id) σ₀ σ →
      σ.create = .finished .success → σ.changes = [] → LagPortsRouted lag_id σ₀ σ := by
  intro h
  have hrun : Run (rifLagStep ⟨.lag, 5⟩) (RifLagOn ⟨.lag, 5⟩) lag5
      (rifLagStep ⟨.lag, 5⟩ (.rifMapping (Env.good 1)) (rifLagStep ⟨.lag, 5⟩ (.callback (Env.good 1) 0)
        (rifLagStep ⟨.lag, 5⟩ port6Joins (rifLagStep ⟨.lag, 5⟩ rifOnLag5 lag5)))) := by
    refine .snoc _ (.snoc _ (.snoc _ (.snoc _ (.nil _) (rifLagOn_lag5 lag5 rfl)) ?_) ?_) ?_
    · refine ⟨trivial, fun x hx => ?_, fun _ _ => rfl⟩
      cases hx
      rfl
    · exact fun _ => rfl
    · exact fun _ => rfl
  have hlost := h _ _ _ rifLagStart_lag5 hrun rfl rfl
  exact absurd (hlost.member ⟨.port, 6⟩ (by decide)).1 (by decide)

end OpxSai
