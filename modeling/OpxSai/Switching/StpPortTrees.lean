import OpxSai.Switching.StpPort

/-!
# The trees of STP ports

The tree of all STP ports and the port trees of the instances have the same nodes, each with the
state that the NPU was last given for it. Callers interleave in any way; the one thing that goes wrong
is that an instance is removed while a create that has found it waits for the lock.

* `stpPortsConsistent_of_run` — the main result.
-/

namespace OpxSai

open StpDb

variable {db : StpDb} {info : StpInfo} {c : StpCall} {env : StpEnv} {scan : StpPortScan} {id : Oid}
variable {p : Ptr} {db' : StpDb}

/-! ## What the NPU was given -/

/-- One more call: a state that was taken by the NPU is the one it has. -/
def portStateStep (s port_id : Oid) (x : Option StpPortState) (e : StpCall × Status) :
    Option StpPortState :=
  match e with
  | (.portStateSet s' port_id' port_state, .success) =>
    if s' = s ∧ port_id' = port_id then some port_state else x
  | _ => x

def portStateOf (log : CallLog StpCall) (s port_id : Oid) : Option StpPortState :=
  log.foldl (portStateStep s port_id) none

theorem portStateOf_append (log : CallLog StpCall) (e : StpCall × Status) (s port_id) :
    portStateOf (log ++ [e]) s port_id = portStateStep s port_id (portStateOf log s port_id) e := by
  simp [portStateOf, List.foldl_append]

theorem portStateStep_other {rc} (s port_id) (x)
    (h : (∀ s' port_id' port_state, c ≠ .portStateSet s' port_id' port_state) ∨ rc ≠ .success) :
    portStateStep s port_id x (c, rc) = x := by
  unfold portStateStep
  split
  next heq =>
    cases heq
    rcases h with hc | hrc
    · exact absurd rfl (hc _ _ _)
    · exact absurd rfl hrc
  · rfl

/-! ## What stays -/

/-- Two states have the same trees, nodes and states in the NPU, up to one node. -/
structure StpPortsBut (p : Ptr) (db db' : StpDb) : Prop where
  info : db'.stp_info_tree = db.stp_info_tree
  global : db'.global_stp_port_tree = db.global_stp_port_tree
  ports : ∀ q, q ≠ p → db'.ports.get q = db.ports.get q
  state : ∀ s port_id,
    portStateOf db'.outside_log s port_id = portStateOf db.outside_log s port_id

structure StpPortsSame (db db' : StpDb) : Prop where
  info : db'.stp_info_tree = db.stp_info_tree
  global : db'.global_stp_port_tree = db.global_stp_port_tree
  ports : ∀ q, db'.ports.get q = db.ports.get q
  state : ∀ s port_id,
    portStateOf db'.outside_log s port_id = portStateOf db.outside_log s port_id

theorem StpPortsSame.refl (db) : StpPortsSame db db :=
  ⟨rfl, rfl, fun _ => rfl, fun _ _ => rfl⟩

theorem StpPortsSame.trans {a b c} (hab : StpPortsSame a b) (hbc : StpPortsSame b c) :
    StpPortsSame a c where
  info := hbc.info.trans hab.info
  global := hbc.global.trans hab.global
  ports := fun q => (hbc.ports q).trans (hab.ports q)
  state := fun s port_id => (hbc.state s _).trans (hab.state s _)

theorem StpPortsSame.call (h : (∀ s port_id port_state, c ≠ .portStateSet s port_id port_state) ∨
      (db.call env c).1 ≠ .success) : StpPortsSame db (db.call env c).2 := by
  refine ⟨rfl, rfl, fun _ => rfl, fun s port_id => ?_⟩
  show portStateOf (db.outside_log ++ [(c, env.outside db.outside_log c)]) s port_id = _
  rw [portStateOf_append]
  exact portStateStep_other s _ _ h

theorem StpPortsSame.insert (env) (taken : Bool)
    (h : ∀ s port_id port_state, c ≠ .portStateSet s port_id port_state) :
    StpPortsSame db (db.insert env c taken).2 := by
  unfold StpDb.insert
  split
  · exact .refl db
  · exact .call (.inl h)

namespace StpPortsBut

variable {a b : StpDb}

theorem alloc (h : StpPortsSame db a) (hports : a.ports = db.ports) (node) :
    StpPortsBut a.ports.next db (a.allocPort node) where
  info := h.info
  global := h.global
  ports := fun q hq => by
    show (a.ports.alloc node).get q = _
    rw [Heap.get_alloc_of_ne _ _ hq, hports]
  state := h.state

theorem trans (hab : StpPortsBut p db a) (hbc : StpPortsSame a b) : StpPortsBut p db b where
  info := hbc.info.trans hab.info
  global := hbc.global.trans hab.global
  ports := fun q hq => (hbc.ports q).trans (hab.ports q hq)
  state := fun s port_id => (hbc.state s _).trans (hab.state s _)

theorem write (h : StpPortsBut p db a) (node) (gen) :
    StpPortsBut p db (({ a with sai_port_id_gen_info := gen } : StpDb).writePort p node) where
  info := h.info
  global := h.global
  ports := fun q hq => by
    show (a.ports.modify p fun _ => node).get q = _
    rw [Heap.get_modify_of_ne _ _ hq]
    exact h.ports q hq
  state := h.state

theorem free (h : StpPortsBut p db a) (hp : db.ports.get p = none) :
    StpPortsSame db (a.freePort p) where
  info := h.info
  global := h.global
  ports := fun q => by
    show (a.ports.free p).get q = _
    by_cases hq : q = p
    · rw [hq, Heap.get_free_self, hp]
    · rw [Heap.get_free_of_ne _ hq]
      exact h.ports q hq
  state := h.state

end StpPortsBut

theorem StpInfo.removePort_addPort {port_id} (p)
    (h : info.hasPort port_id = false) : (info.addPort port_id p).removePort port_id = info := by
  obtain ⟨node, vlan_tree, stp_port_tree, num_ports⟩ := info
  have hnot : ∀ x ∈ stp_port_tree, x.1 ≠ port_id := by
    simpa [StpInfo.hasPort] using h
  have hfilter : stp_port_tree.filter (fun x => decide (x.1 ≠ port_id)) = stp_port_tree := by
    refine List.filter_eq_self.mpr fun x hx => ?_
    simpa using hnot x hx
  simp only [StpInfo.addPort, StpInfo.removePort, List.filter_cons]
  rw [hfilter]
  simp

/-! ## The calls -/

structure StpPortCreated (scan : StpPortScan) (info : StpInfo) (id : Oid) (p : Ptr)
    (db db' : StpDb) : Prop where
  fresh : db.ports.get p = none
  free : db.global_stp_port_tree id = none
  new : info.hasPort scan.port_id = false
  info : ∀ s, db'.stp_info_tree s =
    if s = scan.stp_inst_id then some (info.addPort scan.port_id p) else db.stp_info_tree s
  global : ∀ i, db'.global_stp_port_tree i = if i = id then some p else db.global_stp_port_tree i
  ports : ∀ q, db'.ports.get q =
    if q = p then some ⟨id, scan.stp_inst_id, scan.port_id, scan.port_state⟩ else db.ports.get q
  state : ∀ s port_id, portStateOf db'.outside_log s port_id =
    if s = scan.stp_inst_id ∧ port_id = scan.port_id then some scan.port_state
    else portStateOf db.outside_log s port_id

/-- **The locked part of a create**: it fails with all trees and nodes as they were, or there is one
more port. -/
theorem stpPortCreateLocked_cases (env) (hinfo : db.stp_info_tree scan.stp_inst_id = some info) :
    ((stpPortCreateLocked env scan info db).1 ≠ .success ∧
      StpPortsSame db (stpPortCreateLocked env scan info db).2) ∨
    ∃ id p, StpPortCreated scan info id p db (stpPortCreateLocked env scan info db).2 := by
  have hnode : StpPortsSame db (db.call env .portNode).2 := .call (.inl (by simp))
  simp only [stpPortCreateLocked]
  split
  · exact .inl ⟨by simp, hnode⟩
  -- from here on there is a node, at an address that was free
  have hfresh : db.ports.get (db.call env .portNode).2.ports.next = none := Heap.get_next _
  have halloc := StpPortsBut.alloc hnode rfl ⟨.null, .null, scan.port_id, .learning⟩
  have hself : ((db.call env .portNode).2.allocPort
      ⟨.null, .null, scan.port_id, .learning⟩).ports.get (db.call env .portNode).2.ports.next =
      some ⟨.null, .null, scan.port_id, .learning⟩ := Heap.get_alloc_next _ _
  generalize (db.call _ _).2.ports.next = p at hfresh halloc hself ⊢
  generalize (db.call env .portNode).2.allocPort _ = a at halloc hself ⊢
  split
  · exact .inl ⟨by simp, halloc.free hfresh⟩
  rename_i hnot
  have hnew : info.hasPort scan.port_id = false := by simpa using hnot
  split
  · exact .inl ⟨by simp, halloc.free hfresh⟩
  rename_i id gen _
  have hwrite := halloc.write ⟨id, scan.stp_inst_id, scan.port_id, scan.port_state⟩ gen
  have hself' : (({ a with sai_port_id_gen_info := gen } : StpDb).writePort p
      ⟨id, scan.stp_inst_id, scan.port_id, scan.port_state⟩).ports.get p =
      some ⟨id, scan.stp_inst_id, scan.port_id, scan.port_state⟩ := by
    show (a.ports.modify p fun _ => _).get p = _
    rw [Heap.get_modify_self, hself]
    rfl
  generalize ({ a with sai_port_id_gen_info := gen } : StpDb).writePort p _ = w at hwrite hself' ⊢
  have htree : StpPortsSame w
      (w.insert env (.portTree scan.stp_inst_id scan.port_id) false).2 := .insert env _ (by simp)
  have hports : (w.insert env (.portTree scan.stp_inst_id scan.port_id) false).2.ports =
      w.ports := rfl
  generalize w.insert _ _ _ = b at htree hports ⊢
  have hb := hwrite.trans htree
  split
  · exact .inl ⟨by simp, hb.free hfresh⟩
  -- the tree of the instance has the node; when the rest fails it is taken out again
  have hback : ∀ t : StpDb, t.stp_info_tree = b.2.stp_info_tree →
      (fun s => if s = scan.stp_inst_id then
        some ((info.addPort scan.port_id p).removePort scan.port_id)
      else if s = scan.stp_inst_id then some (info.addPort scan.port_id p)
      else t.stp_info_tree s) = db.stp_info_tree := by
    intro t ht
    funext s
    rw [StpInfo.removePort_addPort p hnew, ht, hb.info]
    by_cases hs : s = scan.stp_inst_id
    · rw [if_pos hs, hs, hinfo]
    · rw [if_neg hs, if_neg hs]
  have hglobal : ∀ taken : Bool, StpPortsSame b.2 ((b.2.insert env (.globalPortTree id) taken).2) :=
    fun taken => .insert env taken (by simp)
  have hset : (b.2.setInfo scan.stp_inst_id (some (info.addPort scan.port_id p))).insert env
      (.globalPortTree id) (b.2.global_stp_port_tree id).isSome =
      ((b.2.insert env (.globalPortTree id) (b.2.global_stp_port_tree id).isSome).1,
        (b.2.insert env (.globalPortTree id) (b.2.global_stp_port_tree id).isSome).2.setInfo
          scan.stp_inst_id (some (info.addPort scan.port_id p))) := by
    unfold StpDb.insert
    split <;> rfl
  have hfree : ∀ x, b.2.insert env (.globalPortTree id) (b.2.global_stp_port_tree id).isSome = x →
      x.1 = .success → b.2.global_stp_port_tree id = none := by
    rintro x rfl hx
    cases hold : b.2.global_stp_port_tree id with
    | none => rfl
    | some q =>
      rw [hold] at hx
      exact absurd hx (by simp [StpDb.insert])
  have hkept := hglobal (b.2.global_stp_port_tree id).isSome
  have hkeptPorts : (b.2.insert env (.globalPortTree id)
      (b.2.global_stp_port_tree id).isSome).2.ports = b.2.ports := by
    unfold StpDb.insert
    split <;> rfl
  show _ ∨ _
  have hgl : (b.2.setInfo scan.stp_inst_id
      (some (info.addPort scan.port_id p))).global_stp_port_tree = b.2.global_stp_port_tree := rfl
  rw [hgl, hset]
  generalize hx : b.2.insert _ _ _ = x at hkept hkeptPorts ⊢
  have hfree' := hfree x hx
  dsimp only
  have hc := hb.trans hkept
  split
  · refine .inl ⟨by simp, StpPortsBut.free ⟨?_, hc.global, hc.ports, hc.state⟩ hfresh⟩
    exact hback x.2 hkept.info
  rename_i hinserted
  have hfree'' := hfree' (not_not.mp hinserted)
  have hidfree : db.global_stp_port_tree id = none := by
    rw [← hb.global]
    exact hfree''
  split
  next hfail =>
    refine .inl ⟨hfail, StpPortsBut.free ⟨?_, ?_, hc.ports, fun s port_id => ?_⟩ hfresh⟩
    · exact hback x.2 hkept.info
    · funext i
      show (if i = id then none else if i = id then some p else x.2.global_stp_port_tree i) = _
      rw [hc.global]
      by_cases hi : i = id
      · rw [if_pos hi, hi, hidfree]
      · rw [if_neg hi, if_neg hi]
    · show portStateOf (x.2.outside_log ++ [_]) s port_id = _
      rw [portStateOf_append, ← hc.state]
      exact portStateStep_other s port_id _ (.inr hfail)
  next hdone =>
    refine .inr ⟨id, p, hfresh, hidfree, hnew, fun s => ?_, fun i => ?_, fun q => ?_,
      fun s port_id => ?_⟩
    · show (if s = scan.stp_inst_id then _ else x.2.stp_info_tree s) = _
      rw [hc.info]
    · show (if i = id then _ else x.2.global_stp_port_tree i) = _
      rw [hc.global]
    · show x.2.ports.get q = _
      by_cases hq : q = p
      · rw [hq, if_pos rfl, hkeptPorts, hports]
        exact hself'
      · rw [if_neg hq]
        exact hc.ports q hq
    · show portStateOf (x.2.outside_log ++ [(_, env.outside x.2.outside_log _)]) s port_id = _
      have hrc : env.outside x.2.outside_log
          (.portStateSet scan.stp_inst_id scan.port_id scan.port_state) = .success :=
        not_not.mp hdone
      rw [portStateOf_append, hrc, hc.state]
      unfold portStateStep
      simp only [eq_comm]

/-! ## The invariant -/

/-- The node of a port is in the tree of all ports, in that of its instance and nowhere else, and the
NPU was last given its state. -/
structure StpPortsOk (db : StpDb) : Prop where
  global : ∀ id p, db.global_stp_port_tree id = some p → ∃ node info,
    db.ports.get p = some node ∧ node.stp_port_id = id ∧
    db.stp_info_tree node.stp_inst_id = some info ∧ (node.port_id, p) ∈ info.stp_port_tree ∧
    portStateOf db.outside_log node.stp_inst_id node.port_id = some node.port_state
  inst : ∀ s info port_id p, db.stp_info_tree s = some info → (port_id, p) ∈ info.stp_port_tree →
    ∃ node, db.ports.get p = some node ∧ node.stp_inst_id = s ∧ node.port_id = port_id ∧
      db.global_stp_port_tree node.stp_port_id = some p
  count : ∀ s info, db.stp_info_tree s = some info → info.num_ports = info.stp_port_tree.length
  nodup : ∀ s info, db.stp_info_tree s = some info → (info.stp_port_tree.map Prod.fst).Nodup

namespace StpPortsOk

theorem addr (h : StpPortsOk db) {q} {node node'}
    (hp : db.ports.get p = some node) (hq : db.ports.get q = some node')
    (hid : db.global_stp_port_tree id = some p) (hinfo : db.stp_info_tree node'.stp_inst_id = some info)
    (hmem : (node'.port_id, q) ∈ info.stp_port_tree)
    (hinst : node.stp_inst_id = node'.stp_inst_id) (hport : node.port_id = node'.port_id) :
    p = q := by
  obtain ⟨node'', info', hget, -, hinfo', hmem', -⟩ := h.global id p hid
  obtain rfl := Option.some.inj (hp.symm.trans hget)
  rw [hinst] at hinfo'
  obtain rfl := Option.some.inj (hinfo.symm.trans hinfo')
  rw [hport] at hmem'
  exact (Prod.mk.inj (List.inj_on_of_nodup_map (h.nodup _ _ hinfo) hmem' hmem rfl)).2

theorem same (h : StpPortsOk db) (hsame : StpPortsSame db db') : StpPortsOk db' := by
  refine ⟨fun id p hid => ?_, fun s info port_id p hs hmem => ?_, fun s info hs => ?_,
    fun s info hs => ?_⟩
  · rw [hsame.global] at hid
    obtain ⟨node, info, hget, hnode, hinfo, hmem, hstate⟩ := h.global id p hid
    refine ⟨node, info, (hsame.ports p).trans hget, hnode, ?_, hmem, (hsame.state _ _).trans hstate⟩
    rw [hsame.info]
    exact hinfo
  · rw [hsame.info] at hs
    obtain ⟨node, hget, hinst, hport, hid⟩ := h.inst s _ _ p hs hmem
    refine ⟨node, (hsame.ports p).trans hget, hinst, hport, ?_⟩
    rw [hsame.global]
    exact hid
  · rw [hsame.info] at hs
    exact h.count s _ hs
  · rw [hsame.info] at hs
    exact h.nodup s _ hs

theorem created (h : StpPortsOk db) (hinfo : db.stp_info_tree scan.stp_inst_id = some info)
    (hnew : StpPortCreated scan info id p db db') : StpPortsOk db' := by
  -- the old nodes are at other addresses, have other ids and are for other ports
  have hne : ∀ q node, db.ports.get q = some node → q ≠ p := by
    rintro q node hget rfl
    rw [hnew.fresh] at hget
    cases hget
  have hfree : ∀ q, (scan.port_id, q) ∉ info.stp_port_tree := by
    intro q hmem
    have hno := hnew.new
    simp only [StpInfo.hasPort, List.any_eq_false, decide_eq_true_eq] at hno
    exact hno _ hmem rfl
  refine ⟨fun i q hi => ?_, fun s info' port_id q hs hmem => ?_, fun s info' hs => ?_,
    fun s info' hs => ?_⟩
  · rw [hnew.global] at hi
    split at hi
    next hi' =>
      cases hi
      refine ⟨_, _, (hnew.ports p).trans (if_pos rfl), hi'.symm, (hnew.info _).trans (if_pos rfl),
        by simp [StpInfo.addPort], ?_⟩
      rw [hnew.state, if_pos ⟨rfl, rfl⟩]
    obtain ⟨node, info', hget, hnode, hinfo', hmem, hstate⟩ := h.global i q hi
    have hget' := (hnew.ports q).trans (if_neg (hne q node hget))
    by_cases hs : node.stp_inst_id = scan.stp_inst_id
    · rw [hs, hinfo] at hinfo'
      cases hinfo'
      refine ⟨node, _, hget'.trans hget, hnode, (hnew.info _).trans (if_pos hs),
        by simp [StpInfo.addPort, hmem], ?_⟩
      rw [hnew.state, if_neg]
      · exact hstate
      rintro ⟨-, hport⟩
      rw [hport] at hmem
      exact hfree q hmem
    · refine ⟨node, info', hget'.trans hget, hnode, ?_, hmem, ?_⟩
      · rw [hnew.info, if_neg hs]
        exact hinfo'
      · rw [hnew.state, if_neg fun hyes => hs hyes.1]
        exact hstate
  · have hold : ∀ info'', db.stp_info_tree s = some info'' → (port_id, q) ∈ info''.stp_port_tree →
        ∃ node, db'.ports.get q = some node ∧ node.stp_inst_id = s ∧ node.port_id = port_id ∧
          db'.global_stp_port_tree node.stp_port_id = some q := by
      intro info'' hs' hmem'
      obtain ⟨node, hget, hinst, hport, hid⟩ := h.inst s _ _ q hs' hmem'
      refine ⟨node, ((hnew.ports q).trans (if_neg (hne q node hget))).trans hget, hinst, hport, ?_⟩
      rw [hnew.global, if_neg]
      · exact hid
      intro hi
      rw [hi, hnew.free] at hid
      cases hid
    rw [hnew.info] at hs
    split at hs
    next hs' =>
      cases hs
      rcases List.mem_cons.mp hmem with heq | hmem
      · obtain ⟨rfl, rfl⟩ := Prod.mk.inj heq
        exact ⟨_, (hnew.ports q).trans (if_pos rfl), hs'.symm, rfl,
          (hnew.global id).trans (if_pos rfl)⟩
      · exact hold info (hs' ▸ hinfo) hmem
    · exact hold info' hs hmem
  · rw [hnew.info] at hs
    split at hs
    · cases hs
      have hcount := h.count _ _ hinfo
      simp only [StpInfo.addPort, List.length_cons]
      omega
    · exact h.count s _ hs
  · rw [hnew.info] at hs
    split at hs
    · cases hs
      refine List.nodup_cons.mpr ⟨fun hmem => ?_, h.nodup _ _ hinfo⟩
      obtain ⟨x, hx, hport⟩ := List.mem_map.mp hmem
      have hport' : x.1 = scan.port_id := hport
      have hx' : (scan.port_id, x.2) ∈ info.stp_port_tree := by
        rw [← hport']
        exact hx
      exact hfree x.2 hx'
    · exact h.nodup s _ hs

end StpPortsOk

/-- A key that a list has once: without it, the list is one shorter. -/
theorem length_filter_fst_ne {α β : Type} [DecidableEq α] {l : List (α × β)} {a : α} {b : β}
    (hnd : (l.map Prod.fst).Nodup) (hmem : (a, b) ∈ l) :
    (l.filter fun x => x.1 ≠ a).length + 1 = l.length := by
  induction l with
  | nil => cases hmem
  | cons x l ih =>
    obtain ⟨hnot, hnd'⟩ := List.nodup_cons.mp hnd
    by_cases hx : x.1 = a
    · have hall : l.filter (fun y => decide (y.1 ≠ a)) = l := by
        refine List.filter_eq_self.mpr fun y hy => ?_
        have hne : y.1 ≠ a := by
          rintro rfl
          exact hnot (hx ▸ List.mem_map_of_mem hy)
        simpa using hne
      rw [List.filter_cons_of_neg (by simpa using hx), hall, List.length_cons]
    · have hmem' : (a, b) ∈ l := by
        rcases List.mem_cons.mp hmem with heq | hmem'
        · exact absurd (congrArg Prod.fst heq).symm hx
        · exact hmem'
      rw [List.filter_cons_of_pos (by simpa using hx), List.length_cons, List.length_cons,
        ih hnd' hmem']

theorem StpDb.of_port {node} (h : db.port id = some (p, node)) :
    db.global_stp_port_tree id = some p ∧ db.ports.get p = some node := by
  unfold StpDb.port at h
  split at h
  · cases h
  rename_i q hq
  obtain ⟨node', hnode', heq⟩ := Option.map_eq_some_iff.mp h
  cases heq
  exact ⟨hq, hnode'⟩

/-- **A remove**: it fails with all as it was, or there is one port less. -/
theorem stpPortRemove_cases (env) (id) (h : StpPortsOk db) :
    ((stpPortRemove env id db).1 ≠ .success ∧ StpPortsSame db (stpPortRemove env id db).2) ∨
    ∃ p node info, db.global_stp_port_tree id = some p ∧ db.ports.get p = some node ∧
      db.stp_info_tree node.stp_inst_id = some info ∧
      (∀ s, (stpPortRemove env id db).2.stp_info_tree s = if s = node.stp_inst_id then
        some (info.removePort node.port_id) else db.stp_info_tree s) ∧
      (∀ i, (stpPortRemove env id db).2.global_stp_port_tree i =
        if i = id then none else db.global_stp_port_tree i) ∧
      (∀ q, q ≠ p → (stpPortRemove env id db).2.ports.get q = db.ports.get q) ∧
      (∀ s port_id, ¬(s = node.stp_inst_id ∧ port_id = node.port_id) →
        portStateOf (stpPortRemove env id db).2.outside_log s port_id =
          portStateOf db.outside_log s port_id) := by
  simp only [stpPortRemove]
  split
  · exact .inl ⟨by simp, .refl db⟩
  cases hport : db.port id with
  | none => exact .inl ⟨by simp, .refl db⟩
  | some x =>
    obtain ⟨p, node⟩ := x
    obtain ⟨hid, hget⟩ := StpDb.of_port hport
    obtain ⟨node', info, hget', -, hinfo, -⟩ := h.global id p hid
    obtain rfl := Option.some.inj (hget.symm.trans hget')
    dsimp only
    split
    next hfail => exact .inl ⟨hfail, .call (.inr hfail)⟩
    rename_i hrc
    have hinfo' : ((db.call env (.portStateSet node.stp_inst_id node.port_id
        .blocking)).2.setGlobal id none).stp_info_tree node.stp_inst_id = some info := hinfo
    rw [hinfo']
    refine .inr ⟨p, node, info, hid, hget, hinfo, fun s => rfl, fun i => rfl, fun q hq => ?_,
      fun s port_id hne => ?_⟩
    · exact Heap.get_free_of_ne _ hq
    · show portStateOf (db.outside_log ++ [_]) s port_id = _
      rw [portStateOf_append]
      unfold portStateStep
      split
      next heq =>
        obtain ⟨hc, -⟩ := Prod.mk.inj heq
        obtain ⟨rfl, rfl, -⟩ := StpCall.portStateSet.inj hc
        rw [if_neg]
        rintro ⟨rfl, rfl⟩
        exact hne ⟨rfl, rfl⟩
      · rfl

/-- **A set**: nothing changes, or the state of one port does, in its node and in the NPU. -/
theorem stpPortAttributeSet_cases (env) (id) (attr) (db) :
    StpPortsSame db (stpPortAttributeSet env id attr db).2 ∨
    ∃ p node port_state, db.global_stp_port_tree id = some p ∧ db.ports.get p = some node ∧
      (stpPortAttributeSet env id attr db).2.stp_info_tree = db.stp_info_tree ∧
      (stpPortAttributeSet env id attr db).2.global_stp_port_tree = db.global_stp_port_tree ∧
      (∀ q, (stpPortAttributeSet env id attr db).2.ports.get q =
        if q = p then some { node with port_state := port_state } else db.ports.get q) ∧
      (∀ s port_id, portStateOf (stpPortAttributeSet env id attr db).2.outside_log s port_id =
        if s = node.stp_inst_id ∧ port_id = node.port_id then some port_state
        else portStateOf db.outside_log s port_id) := by
  simp only [stpPortAttributeSet]
  split
  · exact .inl (.refl db)
  cases hport : db.port id with
  | none => exact .inl (.refl db)
  | some x =>
    obtain ⟨p, node⟩ := x
    obtain ⟨hid, hget⟩ := StpDb.of_port hport
    cases attr with
    | stp oid | port oid | unknown n => exact .inl (.refl db)
    | state s32 =>
      dsimp only
      split
      · exact .inl (.refl db)
      split
      next hfail => exact .inl (.call (.inr hfail))
      rename_i hrc
      refine .inr ⟨p, node, s32, hid, hget, rfl, rfl, fun q => ?_, fun s port_id => ?_⟩
      · show (db.ports.modify p fun _ => _).get q = _
        by_cases hq : q = p
        · rw [if_pos hq, hq, Heap.get_modify_self, hget]
          rfl
        · rw [if_neg hq, Heap.get_modify_of_ne _ _ hq]
      · show portStateOf (db.outside_log ++ [(_, env.outside db.outside_log _)]) s port_id = _
        have hrc' : env.outside db.outside_log
            (.portStateSet node.stp_inst_id node.port_id s32) = .success := not_not.mp hrc
        rw [portStateOf_append, hrc']
        unfold portStateStep
        simp only [eq_comm]

namespace StpPortsOk

theorem remove (h : StpPortsOk db) (env) (id) :
    StpPortsOk (stpPortRemove env id db).2 := by
  rcases stpPortRemove_cases env id h with
    ⟨-, hsame⟩ | ⟨p, node, info, hid, hget, hinfo, htree, hglobal, hports, hstate⟩
  · exact h.same hsame
  obtain ⟨node', info', hget', hnode, hinfo', hmem, -⟩ := h.global id p hid
  obtain rfl := Option.some.inj (hget.symm.trans hget')
  obtain rfl := Option.some.inj (hinfo.symm.trans hinfo')
  have hkeep : ∀ port_id q, (port_id, q) ∈ (info.removePort node.port_id).stp_port_tree ↔
      (port_id, q) ∈ info.stp_port_tree ∧ port_id ≠ node.port_id := by
    intro port_id q
    simp [StpInfo.removePort]
  refine ⟨fun i q hi => ?_, fun s info' port_id q hs hmem' => ?_, fun s info' hs => ?_,
    fun s info' hs => ?_⟩
  · rw [hglobal] at hi
    split at hi
    · cases hi
    rename_i hne
    obtain ⟨node'', info'', hget'', hnode'', hinfo'', hmem'', hstate''⟩ := h.global i q hi
    have hqp : q ≠ p := by
      rintro rfl
      obtain rfl := Option.some.inj (hget.symm.trans hget'')
      exact hne (hnode''.symm.trans hnode)
    -- a node for the same port of the same instance would be the one removed
    have hother : ¬(node''.stp_inst_id = node.stp_inst_id ∧ node''.port_id = node.port_id) := by
      rintro ⟨hinst, hport⟩
      exact hqp (h.addr hget'' hget hi hinfo hmem hinst hport)
    by_cases hs : node''.stp_inst_id = node.stp_inst_id
    · rw [hs] at hinfo''
      obtain rfl := Option.some.inj (hinfo.symm.trans hinfo'')
      refine ⟨node'', _, (hports q hqp).trans hget'', hnode'', (htree _).trans (if_pos hs),
        (hkeep _ _).mpr ⟨hmem'', fun hport => hother ⟨hs, hport⟩⟩, ?_⟩
      exact (hstate _ _ hother).trans hstate''
    refine ⟨node'', info'', (hports q hqp).trans hget'', hnode'', ?_, hmem'', ?_⟩
    · rw [htree, if_neg hs]
      exact hinfo''
    · exact (hstate _ _ hother).trans hstate''
  · have hold : ∀ info'', db.stp_info_tree s = some info'' → (port_id, q) ∈ info''.stp_port_tree →
        ¬(s = node.stp_inst_id ∧ port_id = node.port_id) →
        ∃ node', (stpPortRemove env id db).2.ports.get q = some node' ∧ node'.stp_inst_id = s ∧
          node'.port_id = port_id ∧
          (stpPortRemove env id db).2.global_stp_port_tree node'.stp_port_id = some q := by
      intro info'' hs'' hmem'' hne
      obtain ⟨node'', hget'', hinst, hport, hid''⟩ := h.inst s _ _ q hs'' hmem''
      have hqp : q ≠ p := by
        rintro rfl
        obtain rfl := Option.some.inj (hget.symm.trans hget'')
        exact hne ⟨hinst.symm, hport.symm⟩
      refine ⟨node'', (hports q hqp).trans hget'', hinst, hport, ?_⟩
      rw [hglobal, if_neg]
      · exact hid''
      intro hi
      rw [hi, hid] at hid''
      exact hqp (Option.some.inj hid'').symm
    rw [htree] at hs
    split at hs
    next hs' =>
      cases hs
      obtain ⟨hmem'', hne⟩ := (hkeep _ _).mp hmem'
      exact hold info (hs' ▸ hinfo) hmem'' fun hyes => hne hyes.2
    next hs' => exact hold info' hs hmem' fun hyes => hs' hyes.1
  · rw [htree] at hs
    split at hs
    · cases hs
      have hcount := h.count _ _ hinfo
      -- of the nodes of the instance exactly one is for the port
      have hlen := length_filter_fst_ne (h.nodup _ _ hinfo) hmem
      show info.num_ports - 1 = (info.stp_port_tree.filter fun x => x.1 ≠ node.port_id).length
      omega
    · exact h.count s _ hs
  · rw [htree] at hs
    split at hs
    · cases hs
      exact (h.nodup _ _ hinfo).sublist (List.Sublist.map _ List.filter_sublist)
    · exact h.nodup s _ hs

theorem set (h : StpPortsOk db) (env) (id) (attr) :
    StpPortsOk (stpPortAttributeSet env id attr db).2 := by
  rcases stpPortAttributeSet_cases env id _ db with
    hsame | ⟨p, node, port_state, hid, hget, htree, hglobal, hports, hstate⟩
  · exact h.same hsame
  obtain ⟨node', info, hget', -, hinfo, hmem, -⟩ := h.global id p hid
  obtain rfl := Option.some.inj (hget.symm.trans hget')
  refine ⟨fun i q hi => ?_, fun s info' port_id q hs hmem' => ?_, fun s info' hs => ?_,
    fun s info' hs => ?_⟩
  · rw [hglobal] at hi
    obtain ⟨node'', info'', hget'', hnode'', hinfo'', hmem'', hstate''⟩ := h.global i q hi
    by_cases hq : q = p
    · subst hq
      obtain rfl := Option.some.inj (hget.symm.trans hget'')
      refine ⟨_, info'', (hports q).trans (if_pos rfl), hnode'', ?_, hmem'', ?_⟩
      · rw [htree]
        exact hinfo''
      · rw [hstate, if_pos ⟨rfl, rfl⟩]
    refine ⟨node'', info'', ((hports q).trans (if_neg hq)).trans hget'', hnode'', ?_, hmem'', ?_⟩
    · rw [htree]
      exact hinfo''
    · rw [hstate, if_neg]
      · exact hstate''
      · rintro ⟨hinst, hport⟩
        exact hq (h.addr hget'' hget hi hinfo hmem hinst hport)
  · rw [htree] at hs
    obtain ⟨node'', hget'', hinst, hport, hid''⟩ := h.inst s _ _ q hs hmem'
    by_cases hq : q = p
    · subst hq
      obtain rfl := Option.some.inj (hget.symm.trans hget'')
      refine ⟨_, (hports q).trans (if_pos rfl), hinst, hport, ?_⟩
      rw [hglobal]
      exact hid''
    refine ⟨node'', ((hports q).trans (if_neg hq)).trans hget'', hinst, hport, ?_⟩
    rw [hglobal]
    exact hid''
  · rw [htree] at hs
    exact h.count s _ hs
  · rw [htree] at hs
    exact h.nodup s _ hs

theorem setInfo (h : StpPortsOk db) {s} {x}
    (hold : ∀ info, db.stp_info_tree s = some info → info.stp_port_tree = [])
    (hnew : ∀ info, x = some info → info.stp_port_tree = [] ∧ info.num_ports = 0)
    (hsame : StpPortsSame (db.setInfo s x) db') : StpPortsOk db' := by
  refine same ⟨fun id p hid => ?_, fun t info port_id p ht hmem => ?_, fun t info ht => ?_,
    fun t info ht => ?_⟩ hsame
  · obtain ⟨node, info, hget, hnode, hinfo, hmem, hstate⟩ := h.global id p hid
    have hne : node.stp_inst_id ≠ s := by
      intro heq
      rw [heq] at hinfo
      rw [hold info hinfo] at hmem
      cases hmem
    exact ⟨node, info, hget, hnode, (if_neg hne).trans hinfo, hmem, hstate⟩
  · have ht' : (if t = s then x else db.stp_info_tree t) = some info := ht
    split at ht'
    · rw [(hnew info ht').1] at hmem
      cases hmem
    · exact h.inst t _ _ p ht' hmem
  · have ht' : (if t = s then x else db.stp_info_tree t) = some info := ht
    split at ht'
    · obtain ⟨hnil, hzero⟩ := hnew info ht'
      rw [hnil, hzero]
      rfl
    · exact h.count t _ ht'
  · have ht' : (if t = s then x else db.stp_info_tree t) = some info := ht
    split at ht'
    · rw [(hnew info ht').1]
      simp
    · exact h.nodup t _ ht'

end StpPortsOk

/-! ## Instances -/

/-- The nodes of the instances that there were are where they were. -/
def NodesKept (db db' : StpDb) : Prop :=
  ∀ s info, db.stp_info_tree s = some info →
    ∃ info', db'.stp_info_tree s = some info' ∧ info'.node = info.node

theorem StpPortsSame.nodesKept {db} (h : StpPortsSame db db') : NodesKept db db' := by
  intro s info hs
  refine ⟨info, ?_, rfl⟩
  rw [h.info]
  exact hs

theorem NodesKept.update {db} {s} (info')
    (hinfo : db.stp_info_tree s = some info) (hnode : info'.node = info.node)
    (htree : ∀ t, db'.stp_info_tree t = if t = s then some info' else db.stp_info_tree t) :
    NodesKept db db' := by
  intro t info'' ht
  by_cases hts : t = s
  · subst hts
    obtain rfl := Option.some.inj (hinfo.symm.trans ht)
    exact ⟨info', (htree t).trans (if_pos rfl), hnode⟩
  · exact ⟨info'', ((htree t).trans (if_neg hts)).trans ht, rfl⟩

/-- **An instance is created**: nothing changes, or there is one more, without ports. -/
theorem stpInstanceCreate_ports (env) (attr_count : Nat) (db) :
    StpPortsSame db (stpInstanceCreate env attr_count db).2 ∨
    ∃ s p, db.stp_info_tree s = none ∧
      StpPortsSame (db.setInfo s (some ⟨p, [], [], 0⟩)) (stpInstanceCreate env attr_count db).2 := by
  have hquiet : ∀ {c : StpCall} {a : StpDb}, StpPortsSame db a →
      (∀ s port_id port_state, c ≠ .portStateSet s port_id port_state) →
      StpPortsSame db (a.call env c).2 :=
    fun ha hc => ha.trans (.call (.inl hc))
  simp only [stpInstanceCreate]
  split
  · exact .inl (.refl db)
  have hnode : StpPortsSame db (db.call env .infoNode).2 := .call (.inl (by simp))
  split
  · exact .inl hnode
  have hcreate : StpPortsSame db ((db.call env .infoNode).2.call env .instanceCreate).2 :=
    hquiet hnode (by simp)
  split
  · exact .inl hcreate
  generalize (db.call env .infoNode).2.call _ _ = b at hcreate ⊢
  have htree : StpPortsSame db (b.2.insert env (.infoTree (uoidCreate .stp env.npu_object_id))
      (b.2.stp_info_tree (uoidCreate .stp env.npu_object_id)).isSome).2 :=
    hcreate.trans (.insert env _ (by simp))
  split
  · exact .inl (hquiet htree (by simp))
  rename_i hinserted
  have hfresh : db.stp_info_tree (uoidCreate .stp env.npu_object_id) = none := by
    cases hold : db.stp_info_tree (uoidCreate .stp env.npu_object_id) with
    | none => rfl
    | some info =>
      refine absurd ?_ hinserted
      rw [hcreate.info, hold]
      simp [StpDb.insert]
  generalize (b.2.insert _ _ _).2 = c at htree ⊢
  have hvlans : StpPortsSame db (c.call env .vlanTreeCreate).2 := hquiet htree (by simp)
  split
  · exact .inl (hquiet hvlans (by simp))
  have hports : StpPortsSame db ((c.call env .vlanTreeCreate).2.call env .portTreeCreate).2 :=
    hquiet hvlans (by simp)
  split
  · exact .inl (hquiet hports (by simp))
  generalize ((c.call env .vlanTreeCreate).2.call _ _).2 = e at hports ⊢
  refine .inr ⟨_, e.next_node, hfresh, ?_, hports.global, hports.ports, hports.state⟩
  funext t
  show (if t = _ then _ else _) = if t = _ then _ else _
  rw [hports.info]

/-- **An instance is removed**: nothing changes, or one without VLANs and ports is gone, and the NPU
has removed it. -/
theorem stpInstanceRemove_ports (env) (s) (db) :
    StpPortsSame db (stpInstanceRemove env s db).2 ∨
    ∃ info, db.stp_info_tree s = some info ∧ info.vlan_tree = [] ∧ info.num_ports = 0 ∧
      env.outside db.outside_log (.instanceRemove s) = .success ∧
      StpPortsSame (db.setInfo s none) (stpInstanceRemove env s db).2 := by
  have hcall : StpPortsSame db (db.call env (.instanceRemove s)).2 := .call (.inl (by simp))
  simp only [stpInstanceRemove]
  split
  · exact .inl (.refl db)
  split
  · exact .inl (.refl db)
  rename_i info hinfo
  split
  · exact .inl (.refl db)
  rename_i hvlans
  split
  · exact .inl (.refl db)
  rename_i hports
  split
  · exact .inl hcall
  rename_i hrc
  exact .inr ⟨info, hinfo, not_not.mp hvlans, not_not.mp hports, not_not.mp hrc, rfl, rfl,
    fun _ => rfl, hcall.state⟩

/-- The tree of all STP ports is the disjoint union of the trees of the instances, each instance
counts its own, has one for a port at most, each node has the state that the NPU was last given, and
no freed instance was used. -/
structure StpPortsConsistent (db : StpPortDb) : Prop where
  union : ∀ p, (∃ id, db.stp.global_stp_port_tree id = some p) ↔
    ∃ s info port_id, db.stp.stp_info_tree s = some info ∧ (port_id, p) ∈ info.stp_port_tree
  disjoint : ∀ s s' info info' port_id port_id' p, db.stp.stp_info_tree s = some info →
    db.stp.stp_info_tree s' = some info' → (port_id, p) ∈ info.stp_port_tree →
    (port_id', p) ∈ info'.stp_port_tree → s = s' ∧ port_id = port_id'
  one_id : ∀ id id' p, db.stp.global_stp_port_tree id = some p →
    db.stp.global_stp_port_tree id' = some p → id = id'
  num_ports : ∀ s info, db.stp.stp_info_tree s = some info →
    info.num_ports = info.stp_port_tree.length
  one_port : ∀ s info port_id p q, db.stp.stp_info_tree s = some info →
    (port_id, p) ∈ info.stp_port_tree → (port_id, q) ∈ info.stp_port_tree → p = q
  port_state : ∀ id p, db.stp.global_stp_port_tree id = some p → ∃ node,
    db.stp.ports.get p = some node ∧ node.stp_port_id = id ∧
    portStateOf db.stp.outside_log node.stp_inst_id node.port_id = some node.port_state
  not_freed : db.freed_used = false

/-- The condition on a step: an instance is not removed while a create that has found it waits for
the lock. -/
def StpPortOpOk (c : StpPortOpCall) (db : StpPortDb) : Prop :=
  match c.op with
  | .instanceRemove s => ∀ caller scan info, db.pending caller = some scan →
      scan.stp_inst_id = s → db.stp.stp_info_tree s = some info → info.vlan_tree = [] →
      info.num_ports = 0 → c.env.outside db.stp.outside_log (.instanceRemove s) ≠ .success
  | _ => True

/-! ## The steps -/

/-- Trees and nodes agree, and every caller that waits has the node of an instance that there is. -/
structure StpPortDbOk (db : StpPortDb) : Prop where
  ok : StpPortsOk db.stp
  pending : ∀ caller scan, db.pending caller = some scan →
    ∃ info, db.stp.stp_info_tree scan.stp_inst_id = some info ∧ info.node = scan.p_stp_info
  not_freed : db.freed_used = false

/-- What a scan has found is the node of an instance that there is, by induction over the
attributes. -/
theorem stpPortScanAttrs_node {attr_list} {attr_idx : Nat} {scan scan'}
    (hscan : stpPortScanAttrs env db attr_idx attr_list scan = .ok scan')
    (hfound : ∀ s p, scan.stp = some (s, p) →
      ∃ info, db.stp_info_tree s = some info ∧ info.node = p) :
    ∀ s p, scan'.stp = some (s, p) → ∃ info, db.stp_info_tree s = some info ∧ info.node = p := by
  induction attr_list generalizing attr_idx scan with
  | nil =>
    cases hscan
    exact hfound
  | cons attr attr_list ih =>
    cases attr with
    | stp oid =>
      simp only [stpPortScanAttrs] at hscan
      split at hscan
      · cases hscan
      split at hscan
      · cases hscan
      rename_i info hinfo
      refine ih hscan fun s p heq => ?_
      cases heq
      exact ⟨info, hinfo, rfl⟩
    | port oid =>
      simp only [stpPortScanAttrs] at hscan
      split at hscan
      · cases hscan
      split at hscan
      · cases hscan
      exact ih hscan hfound
    | state s32 =>
      simp only [stpPortScanAttrs] at hscan
      split at hscan
      · cases hscan
      exact ih hscan hfound
    | unknown n => exact absurd hscan (by simp [stpPortScanAttrs])

theorem stpPortScan_node {attr_list} (hscan : stpPortScan env attr_list db = .ok scan) :
    ∃ info, db.stp_info_tree scan.stp_inst_id = some info ∧ info.node = scan.p_stp_info := by
  unfold stpPortScan at hscan
  split at hscan
  · cases hscan
  split at hscan
  · cases hscan
  next s p port_id port_state heq =>
    cases hscan
    exact stpPortScanAttrs_node heq (by simp) s p rfl
  · cases hscan

namespace StpPortDbOk

variable {db : StpPortDb}

theorem stp (h : StpPortDbOk db) {stp} (hok : StpPortsOk stp)
    (hkept : NodesKept db.stp stp) : StpPortDbOk { db with stp := stp } := by
  refine ⟨hok, fun caller scan hscan => ?_, h.not_freed⟩
  obtain ⟨info, hinfo, hnode⟩ := h.pending _ _ hscan
  obtain ⟨info', hinfo', hnode'⟩ := hkept _ info hinfo
  exact ⟨info', hinfo', hnode'.trans hnode⟩

theorem createLocked (h : StpPortDbOk db) (env) (caller : Nat) :
    StpPortDbOk (stpPortCreateStep env caller db) := by
  unfold stpPortCreateStep
  split
  · exact h
  rename_i scan hscan
  obtain ⟨info, hinfo, hnode⟩ := h.pending _ _ hscan
  have hscanned : db.scanned scan = some info := by
    simp [StpPortDb.scanned, hinfo, hnode]
  rw [hscanned]
  have hcreated : StpPortDbOk { db with stp := (stpPortCreateLocked env scan info db.stp).2 } := by
    rcases stpPortCreateLocked_cases env hinfo with ⟨-, hsame⟩ | ⟨id, p, hnew⟩
    · exact h.stp (h.ok.same hsame) hsame.nodesKept
    · exact h.stp (h.ok.created hinfo hnew)
        (.update (info.addPort scan.port_id p) hinfo rfl hnew.info)
  refine ⟨hcreated.ok, fun caller' scan' hscan' => ?_, hcreated.not_freed⟩
  have hscan'' : (if caller' = caller then none else db.pending caller') = some scan' := hscan'
  split at hscan''
  · cases hscan''
  · exact hcreated.pending _ _ hscan''

theorem step (h : StpPortDbOk db) {c} (hok : StpPortOpOk c db) :
    StpPortDbOk (stpPortStep c db) := by
  obtain ⟨env, op⟩ := c
  cases op with
  | scan caller attr_list =>
    simp only [stpPortStep]
    split
    · split
      · exact h
      rename_i scan hscan
      refine ⟨h.ok, fun caller' scan' hscan' => ?_, h.not_freed⟩
      have hscan'' : (if caller' = caller then some scan else db.pending caller') = some scan' :=
        hscan'
      split at hscan''
      · cases hscan''
        exact stpPortScan_node hscan
      · exact h.pending _ _ hscan''
    · exact h
  | createLocked caller => exact h.createLocked env _
  | remove id =>
    refine h.stp (h.ok.remove env id) ?_
    rcases stpPortRemove_cases env id h.ok with
      ⟨-, hsame⟩ | ⟨p, node, info, -, -, hinfo, htree, -⟩
    · exact hsame.nodesKept
    · exact .update (info.removePort node.port_id) hinfo rfl htree
  | set id attr =>
    refine h.stp (h.ok.set env id attr) ?_
    rcases stpPortAttributeSet_cases env id attr db.stp with hsame | ⟨p, node, x, -, -, htree, -⟩
    · exact hsame.nodesKept
    intro s info hs
    refine ⟨info, ?_, rfl⟩
    show (stpPortAttributeSet env id attr db.stp).2.stp_info_tree s = _
    rw [htree]
    exact hs
  | instanceCreate attr_count =>
    rcases stpInstanceCreate_ports env attr_count db.stp with hsame | ⟨s, p, hfresh, hsame⟩
    · exact h.stp (h.ok.same hsame) hsame.nodesKept
    refine h.stp (h.ok.setInfo ?_ ?_ hsame) fun t info ht => ⟨info, ?_, rfl⟩
    · intro info hinfo
      exact absurd (hfresh.symm.trans hinfo) (by simp)
    · intro info hinfo
      cases hinfo
      exact ⟨rfl, rfl⟩
    · show (stpInstanceCreate env attr_count db.stp).2.stp_info_tree t = _
      rw [hsame.info]
      refine (if_neg ?_).trans ht
      rintro rfl
      exact absurd (hfresh.symm.trans ht) (by simp)
  | instanceRemove s =>
    rcases stpInstanceRemove_ports env s db.stp with hsame | ⟨info, hinfo, hvlans, hports, hrc, hsame⟩
    · exact h.stp (h.ok.same hsame) hsame.nodesKept
    have hnil : info.stp_port_tree = [] := by
      have hcount := h.ok.count s info hinfo
      exact List.length_eq_zero_iff.mp (by omega)
    have hok' := h.ok.setInfo (x := none) (fun info' hinfo' => ?_) (by simp) hsame
    · refine ⟨hok', fun caller scan hscan => ?_, h.not_freed⟩
      obtain ⟨info', hinfo', hnode⟩ := h.pending _ _ hscan
      refine ⟨info', ?_, hnode⟩
      show (stpInstanceRemove env s db.stp).2.stp_info_tree _ = _
      rw [hsame.info]
      refine (if_neg fun heq => ?_).trans hinfo'
      exact hok caller scan info hscan heq hinfo hvlans hports hrc
    · obtain rfl := Option.some.inj (hinfo.symm.trans hinfo')
      exact hnil

theorem consistent (h : StpPortDbOk db) : StpPortsConsistent db where
  union := by
    intro p
    constructor
    · rintro ⟨id, hid⟩
      obtain ⟨node, info, -, -, hinfo, hmem, -⟩ := h.ok.global id p hid
      exact ⟨_, info, _, hinfo, hmem⟩
    · rintro ⟨s, info, port_id, hinfo, hmem⟩
      obtain ⟨node, -, -, -, hid⟩ := h.ok.inst s info port_id p hinfo hmem
      exact ⟨_, hid⟩
  disjoint := by
    intro s s' info info' port_id port_id' p hs hs' hmem hmem'
    obtain ⟨node, hget, hinst, hport, -⟩ := h.ok.inst s info port_id p hs hmem
    obtain ⟨node', hget', hinst', hport', -⟩ := h.ok.inst s' info' port_id' p hs' hmem'
    obtain rfl := Option.some.inj (hget.symm.trans hget')
    exact ⟨hinst.symm.trans hinst', hport.symm.trans hport'⟩
  one_id := by
    intro id id' p hid hid'
    obtain ⟨node, -, hget, hnode, -⟩ := h.ok.global id p hid
    obtain ⟨node', -, hget', hnode', -⟩ := h.ok.global id' p hid'
    obtain rfl := Option.some.inj (hget.symm.trans hget')
    exact hnode.symm.trans hnode'
  num_ports := h.ok.count
  one_port := by
    intro s info port_id p q hs hp hq
    exact (Prod.mk.inj (List.inj_on_of_nodup_map (h.ok.nodup s info hs) hp hq rfl)).2
  port_state := by
    intro id p hid
    obtain ⟨node, -, hget, hnode, -, -, hstate⟩ := h.ok.global id p hid
    exact ⟨node, hget, hnode, hstate⟩
  not_freed := h.not_freed

theorem initial (g_def_stp_id) (l3 : Option (Oid × VlanId)) (mask : Nat) :
    StpPortDbOk (.initial (.initial g_def_stp_id l3 mask)) := by
  have hempty : ∀ s info, (StpDb.initial g_def_stp_id l3 mask).stp_info_tree s = some info →
      info.stp_port_tree = [] ∧ info.num_ports = 0 := by
    have hdef : ∀ s info, (if s = g_def_stp_id then
        some (⟨1, [initDefaultVlan], [], 0⟩ : StpInfo) else none) = some info →
        info.stp_port_tree = [] ∧ info.num_ports = 0 := by
      intro s info hs
      split at hs
      · cases hs
        exact ⟨rfl, rfl⟩
      · cases hs
    intro s info hs
    cases l3 with
    | none => exact hdef s info hs
    | some x =>
      have hs' : (if s = x.1 then some (⟨2, [x.2], [], 0⟩ : StpInfo) else
          if s = g_def_stp_id then some ⟨1, [initDefaultVlan], [], 0⟩ else none) = some info := hs
      split at hs'
      · cases hs'
        exact ⟨rfl, rfl⟩
      · exact hdef s info hs'
  have hglobal : ∀ id, (StpDb.initial g_def_stp_id l3 mask).global_stp_port_tree id = none := by
    intro id
    cases l3 <;> rfl
  refine ⟨⟨fun id p hid => ?_, fun s info port_id p hs hmem => ?_, fun s info hs => ?_,
    fun s info hs => ?_⟩, fun caller scan hscan => absurd hscan (by simp [StpPortDb.initial]), rfl⟩
  · exact absurd ((hglobal id).symm.trans hid) (by simp)
  · rw [(hempty s info hs).1] at hmem
    cases hmem
  · rw [(hempty s info hs).1, (hempty s info hs).2]
    rfl
  · rw [(hempty s info hs).1]
    simp

end StpPortDbOk

/-- **STP ports and instances**: after any run of any callers in which no instance is removed while a
create that has found it waits for the lock, the trees of STP ports are consistent. -/
theorem stpPortsConsistent_of_run {g_def_stp_id : Oid} {l3 : Option (Oid × VlanId)} {mask : Nat}
    {db : StpPortDb}
    (hrun : Run stpPortStep StpPortOpOk (.initial (.initial g_def_stp_id l3 mask)) db) :
    StpPortsConsistent db := by
  have hok := hrun.induct (P := StpPortDbOk) (fun _ _ h hok => h.step hok) (.initial _ _ _)
  exact hok.consistent

def forwardingPort (stp_inst_id : Oid) : List StpPortAttr :=
  [.stp stp_inst_id, .port ⟨.port, 1⟩, .state .forwarding]

theorem stpPortsConsistent_of_run_created :
    let run : List StpPortOp → StpPortDb := fun ops =>
      ops.foldl (fun db op => stpPortStep ⟨.good 7, op⟩ db) (.initial (.initial ⟨.stp, 1⟩ none 255))
    StpPortsConsistent
      (run [.instanceCreate 0, .scan 0 (forwardingPort ⟨.stp, 7⟩), .createLocked 0]) := by
  intro run
  refine @stpPortsConsistent_of_run ⟨.stp, 1⟩ none 255 _ ?_
  have hcall : ∀ op db, Run stpPortStep StpPortOpOk (.initial (.initial ⟨.stp, 1⟩ none 255)) db →
      StpPortOpOk ⟨.good 7, op⟩ db →
      Run stpPortStep StpPortOpOk (.initial (.initial ⟨.stp, 1⟩ none 255))
        (stpPortStep ⟨.good 7, op⟩ db) :=
    fun _ _ hrun hok => .snoc _ hrun hok
  exact hcall (.createLocked 0) _ (hcall (.scan 0 (forwardingPort ⟨.stp, 7⟩)) _
    (hcall (.instanceCreate 0) _ (.nil _) trivial) trivial) trivial

/-- One caller has found an instance, and another one removes it. -/
theorem not_stpPortsConsistent_freed :
    let run : List StpPortOp → StpPortDb := fun ops =>
      ops.foldl (fun db op => stpPortStep ⟨.good 7, op⟩ db) (.initial (.initial ⟨.stp, 1⟩ none 255))
    ¬ StpPortsConsistent (run [.instanceCreate 0, .scan 0 (forwardingPort ⟨.stp, 7⟩),
      .instanceRemove ⟨.stp, 7⟩, .createLocked 0]) := by
  intro run h
  exact absurd h.not_freed (by decide)

end OpxSai
