import OpxSai.Routing.NeighborMac

/-!
# Routing — FDB events

An FDB event gives the neighbors of a MAC entry another port. Port and mark of a neighbor are written
before the NPU is asked, only the port is taken back when it refuses, and the encap next hops over the
neighbor are told in any case, with the record as it was.

* `portSetExact_iff` — when an event keeps port and mark together;
* `encapLearns_iff` — when the encap next hops are told what is new.
-/

namespace OpxSai

open Fib

/-! ## The event -/

/-- `sai_fdb_event_t` -/
inductive FdbEvent where
  | learned | aged | flushed
deriving DecidableEq

/-- `sai_fdb_internal_notification_data_t` -/
structure FdbUpdate where
  fdb_event : FdbEvent
  fdb_entry : MacKey
  port_id : Oid
deriving DecidableEq

def neighborPortUpdate (port_id : Oid) (n : Nh) : Nh × NeighborFlags :=
  if port_id = .null then
    ({ n with port_id := port_id, port_unresolved := true }, { NeighborFlags.none with pkt_action := true })
  else if n.port_unresolved then
    ({ n with port_id := port_id, port_unresolved := false },
      { NeighborFlags.none with dest_mac := true, pkt_action := true })
  else ({ n with port_id := port_id }, { NeighborFlags.none with port_id := true })

section Event

variable (env : Env)

/-- The body of the loop of `sai_fib_neighbor_port_id_set`; only the port is taken back. -/
def neighborPortIdSetNode (port_id : Oid) (nh : Ptr) (s : Fib) : Status × Fib :=
  let nh_node_copy := s.nh nh
  let x := neighborPortUpdate port_id nh_node_copy
  let a := (s.modNh nh fun _ => x.1).call env (.neighborAttrSet x.1 x.2)
  let s := if a.1 ≠ .success then a.2.modNh nh fun n => { n with port_id := nh_node_copy.port_id } else a.2
  (a.1, neighborDepEncapNhListUpdate env nh nh_node_copy { NeighborFlags.none with port_id := true } s)

/-- The loop of `sai_fib_neighbor_port_id_set` -/
def neighborPortIdSetNodes (port_id : Oid) : List Ptr → Status × Fib → Status × Fib
  | [], x => x
  | nh :: neighbors, x =>
    neighborPortIdSetNodes port_id neighbors
      (if (x.2.nh nh).port_id = port_id then x else neighborPortIdSetNode env port_id nh x.2)

/-- `sai_fib_neighbor_port_id_set` -/
def neighborPortIdSet (fdb_entry : MacKey) (port_id : Oid) (s : Fib) : Status × Fib :=
  match s.neighbor_mac_tree fdb_entry with
  | none => (.success, s)
  | some neighbors => neighborPortIdSetNodes env port_id neighbors (.success, s)

end Event

/-- The port of an event: only a learned entry has one. -/
def FdbUpdate.port (fdb_upd : FdbUpdate) : Oid :=
  if fdb_upd.fdb_event = .learned then fdb_upd.port_id else .null

/-- One turn of `sai_neighbor_fdb_callback` -/
def neighborFdbUpdate (env : Env) (fdb_upd : FdbUpdate) (s : Fib) : Status × Fib :=
  neighborPortIdSet env fdb_upd.fdb_entry fdb_upd.port s

/-! ## What is expected -/

/-- The list of a MAC entry has each of its neighbors once, and they are there. -/
structure NeighborsOk (neighbors : List Ptr) (s : Fib) : Prop where
  nodup : neighbors.Nodup
  live : ∀ p ∈ neighbors, s.NhLive p

def PortUpdateFails (env : Env) (port_id : Oid) (n : Nh) : Prop :=
  n.port_id ≠ port_id ∧ env.status (.neighborAttrSet (neighborPortUpdate port_id n).1
    (neighborPortUpdate port_id n).2) ≠ .success

/-- **An event keeps port and mark together**: a neighbor is as before, if the NPU refuses it, or has the
new port and is marked exactly if there is none; and the other neighbors are as before. -/
def PortSetExact (env : Env) (fdb_upd : FdbUpdate) (neighbors : List Ptr) (s : Fib) : Prop :=
  let t := (neighborFdbUpdate env fdb_upd s).2
  (∀ p ∈ neighbors, (PortUpdateFails env fdb_upd.port (s.nh p) → t.nh p = s.nh p) ∧
    (¬ PortUpdateFails env fdb_upd.port (s.nh p) → (t.nh p).port_id = fdb_upd.port ∧
      ((t.nh p).port_unresolved = true ↔ fdb_upd.port = .null))) ∧
  ∀ p, p ∉ neighbors → t.nh p = s.nh p

/-- **When it does.** A neighbor that has the port already, and one that the NPU refuses, is marked
exactly if the port is none. -/
def PortSetFits (env : Env) (port_id : Oid) (neighbors : List Ptr) (s : Fib) : Prop :=
  ∀ p ∈ neighbors, (s.nh p).port_id = port_id ∨ PortUpdateFails env port_id (s.nh p) →
    ((s.nh p).port_unresolved = true ↔ port_id = .null)

structure NeighborFlags.Same (flags : NeighborFlags) (n m : Nh) : Prop where
  dest_mac : flags.dest_mac = true → n.mac_addr = m.mac_addr
  pkt_action : flags.pkt_action = true → n.packet_action = m.packet_action
  no_host_route : flags.no_host_route = true → n.no_host_route = m.no_host_route
  meta_data : flags.meta_data = true → n.meta_data = m.meta_data
  port_id : flags.port_id = true → n.port_id = m.port_id

/-- An encap next hop is told of a neighbor that the NPU has just updated, and what it is told is what
the neighbor has in `t`. -/
def EncapCallsOk (t : Fib) : Option Nh → List (ExtCall × Status) → Prop
  | _, [] => True
  | _, (.neighborAttrSet node _, rc) :: calls =>
    EncapCallsOk t (if rc = .success then some node else none) calls
  | updated, (.encapNhNeighborAttrSet _ neighbor attr_info flags, _) :: calls =>
    (∃ node, updated = some node ∧ node.key = (t.nh neighbor).key ∧
      flags.Same attr_info (t.nh neighbor)) ∧ EncapCallsOk t updated calls
  | updated, _ :: calls => EncapCallsOk t updated calls

/-- **The encap next hops learn what is new**, and all those over a neighbor that has changed. -/
def EncapLearns (s t : Fib) : Prop :=
  ∃ calls, t.npu_log = s.npu_log ++ calls ∧ EncapCallsOk t none calls ∧
    ∀ p, t.nh p ≠ s.nh p → ∀ e ∈ (s.nh p).dep_encap_nh_list,
      ∃ attr_info flags rc, (.encapNhNeighborAttrSet e p attr_info flags, rc) ∈ calls

variable {env : Env} {port_id : Oid} {neighbors : List Ptr} {p : Ptr} {n : Nh} {s t : Fib} {updated : Option Nh}
  {calls : List (ExtCall × Status)}

theorem MacState.neighborsOk (h : MacState none s) {key : MacKey}
    (hkey : s.neighbor_mac_tree key = some neighbors) : NeighborsOk neighbors s := by
  have hvalues : MultiMap.values s.neighbor_mac_tree key = neighbors := by
    unfold MultiMap.values
    rw [hkey]
    rfl
  refine ⟨hvalues ▸ h.index.nodup key, fun p hp => ?_⟩
  by_contra hdead
  rw [← hvalues, h.index.mem, if_neg (by simp), macOf_of_not_neighbor (neighbor_of_dead hdead)] at hp
  exact absurd hp (by simp)

/-! ## One neighbor -/

def portSetNode (env : Env) (port_id : Oid) (n : Nh) : Nh :=
  if n.port_id = port_id then n
  else
    let x := neighborPortUpdate port_id n
    { n with
      port_id := if env.status (.neighborAttrSet x.1 x.2) = .success then port_id else n.port_id
      port_unresolved := decide (port_id = .null) }

def portSetCalls (env : Env) (port_id : Oid) (s : Fib) (p : Ptr) : List (ExtCall × Status) :=
  if (s.nh p).port_id = port_id then []
  else
    let x := neighborPortUpdate port_id (s.nh p)
    (.neighborAttrSet x.1 x.2, env.status (.neighborAttrSet x.1 x.2)) ::
      (s.nh p).dep_encap_nh_list.map fun e =>
        (.encapNhNeighborAttrSet e p (s.nh p) { NeighborFlags.none with port_id := true },
          env.status (.encapNhNeighborAttrSet e p (s.nh p) { NeighborFlags.none with port_id := true }))

theorem neighborDepEncapNhListUpdate_eq (env : Env) (p : Ptr) (attr_info : Nh) (flags : NeighborFlags)
    (s : Fib) : neighborDepEncapNhListUpdate env p attr_info flags s =
      { s with npu_log := s.npu_log ++ (s.nh p).dep_encap_nh_list.map fun e =>
        (.encapNhNeighborAttrSet e p attr_info flags, env.status (.encapNhNeighborAttrSet e p attr_info flags)) } := by
  unfold neighborDepEncapNhListUpdate
  generalize (s.nh p).dep_encap_nh_list = encap_nhs
  induction encap_nhs generalizing s with
  | nil => simp
  | cons e encap_nhs ih =>
    rw [List.foldl_cons, ih]
    simp [call]

theorem portSetNode_deps : (portSetNode env port_id n).dep_encap_nh_list = n.dep_encap_nh_list := by
  unfold portSetNode
  split <;> rfl

theorem neighborPortUpdate_node (port_id n) : (neighborPortUpdate port_id n).1 =
    { n with port_id := port_id, port_unresolved := decide (port_id = .null) } := by
  unfold neighborPortUpdate
  split
  next hnull => simp [hnull]
  rename_i hnull
  split
  · simp [hnull]
  rename_i hresolved
  obtain ⟨⟩ := n
  simp_all

theorem neighborPortIdSetNode_node (env) (hp : s.NhLive p) (hport : (s.nh p).port_id ≠ port_id) {x : Nh × NeighborFlags}
    (hx : neighborPortUpdate port_id (s.nh p) = x) :
    let a := (s.modNh p fun _ => x.1).call env (.neighborAttrSet x.1 x.2)
    let t := if a.1 ≠ .success then a.2.modNh p fun n => { n with port_id := (s.nh p).port_id } else a.2
    (∀ q, t.nh q = if q = p then portSetNode env port_id (s.nh q) else s.nh q) ∧
      (∀ q, t.NhLive q ↔ s.NhLive q) ∧
      t.npu_log = s.npu_log ++ [(.neighborAttrSet x.1 x.2, env.status (.neighborAttrSet x.1 x.2))] := by
  intro a t
  have hnode := neighborPortUpdate_node port_id (s.nh p)
  rw [hx] at hnode
  by_cases hnpu : env.status (.neighborAttrSet x.1 x.2) = .success
  · have ht : t = a.2 := if_neg fun h => h hnpu
    have hset : portSetNode env port_id (s.nh p) = x.1 := by
      simp only [portSetNode, if_neg hport, hx, if_pos hnpu]
      rw [hnode]
    rw [ht]
    refine ⟨fun q => ?_, fun q => nhLive_modNh s p q _, rfl⟩
    refine (nh_modNh hp _ q).trans ?_
    split
    next hq => rw [hq, hset]
    · rfl
  · have ht : t = a.2.modNh p fun n => { n with port_id := (s.nh p).port_id } := if_pos hnpu
    have hset : portSetNode env port_id (s.nh p) = { x.1 with port_id := (s.nh p).port_id } := by
      simp only [portSetNode, if_neg hport, hx, if_neg hnpu]
      rw [hnode]
    have hlive : ∀ q, a.2.NhLive q ↔ s.NhLive q := fun q => nhLive_modNh s p q _
    rw [ht]
    refine ⟨fun q => ?_, fun q => (nhLive_modNh a.2 p q _).trans (hlive q), rfl⟩
    rw [nh_modNh ((hlive p).mpr hp)]
    have hq : a.2.nh q = if q = p then x.1 else s.nh q := nh_modNh hp _ q
    rw [hq]
    split
    next hq => rw [hq, hset]
    · rfl

theorem neighborPortIdSetNode_set (env) (hp : s.NhLive p) (hport : (s.nh p).port_id ≠ port_id) :
    let t := (neighborPortIdSetNode env port_id p s).2
    (∀ q, t.nh q = if q = p then portSetNode env port_id (s.nh q) else s.nh q) ∧
      (∀ q, t.NhLive q ↔ s.NhLive q) ∧ t.npu_log = s.npu_log ++ portSetCalls env port_id s p := by
  obtain ⟨hnh, hlive, hlog⟩ := neighborPortIdSetNode_node env hp hport rfl
  simp only [neighborPortIdSetNode, neighborDepEncapNhListUpdate_eq, portSetCalls, if_neg hport]
  refine ⟨hnh, hlive, ?_⟩
  have hdeps := congrArg Nh.dep_encap_nh_list (hnh p)
  rw [if_pos rfl, portSetNode_deps] at hdeps
  rw [hlog, hdeps, List.append_assoc]
  rfl

theorem neighborPortIdSetNodes_set (env port_id) (h : NeighborsOk neighbors s) (rc : Status) :
    let t := (neighborPortIdSetNodes env port_id neighbors (rc, s)).2
    (∀ q, t.nh q = if q ∈ neighbors then portSetNode env port_id (s.nh q) else s.nh q) ∧
      t.npu_log = s.npu_log ++ neighbors.flatMap (portSetCalls env port_id s) := by
  induction neighbors generalizing s rc with
  | nil => simp [neighborPortIdSetNodes]
  | cons p neighbors ih =>
    obtain ⟨hnew, hnodup⟩ := List.nodup_cons.mp h.nodup
    have hlive := fun q hq => h.live q (List.mem_cons_of_mem p hq)
    rw [neighborPortIdSetNodes]
    by_cases hport : (s.nh p).port_id = port_id
    · obtain ⟨hnh, hlog⟩ := ih ⟨hnodup, hlive⟩ rc
      rw [if_pos hport]
      refine ⟨fun q => ?_, by rw [hlog, List.flatMap_cons, portSetCalls, if_pos hport, List.nil_append]⟩
      rw [hnh]
      by_cases hq : q = p
      · rw [if_neg (hq ▸ hnew), if_pos (by simp [hq]), portSetNode, if_pos (hq ▸ hport)]
      · simp [hq]
    · obtain ⟨hone, hsame, hcalls⟩ := neighborPortIdSetNode_set env (h.live p List.mem_cons_self) hport
      rw [if_neg hport]
      generalize neighborPortIdSetNode env port_id p s = x at *
      have hkeep : ∀ q ∈ neighbors, x.2.nh q = s.nh q := fun q hq =>
        (hone q).trans (if_neg fun heq : q = p => hnew (heq ▸ hq))
      obtain ⟨hnh, hlog⟩ := @ih x.2 ⟨hnodup, fun q hq => (hsame q).mpr (hlive q hq)⟩ x.1
      constructor
      · intro q
        rw [hnh]
        by_cases hq : q ∈ neighbors
        · rw [if_pos hq, if_pos (List.mem_cons_of_mem p hq), hkeep q hq]
        · rw [if_neg hq, hone]
          simp [hq]
      · have hrest : neighbors.flatMap (portSetCalls env port_id x.2) =
            neighbors.flatMap (portSetCalls env port_id s) :=
          List.flatMap_congr fun q hq => by simp only [portSetCalls, hkeep q hq]
        rw [hlog, hcalls, hrest, List.append_assoc, List.flatMap_cons]

theorem portSetNode_exact_iff :
    ((PortUpdateFails env port_id n → portSetNode env port_id n = n) ∧
      (¬ PortUpdateFails env port_id n → (portSetNode env port_id n).port_id = port_id ∧
        ((portSetNode env port_id n).port_unresolved = true ↔ port_id = .null))) ↔
    (n.port_id = port_id ∨ PortUpdateFails env port_id n → (n.port_unresolved = true ↔ port_id = .null)) := by
  unfold PortUpdateFails portSetNode
  by_cases hport : n.port_id = port_id
  · simp [hport]
  by_cases hnpu : env.status (.neighborAttrSet (neighborPortUpdate port_id n).1
      (neighborPortUpdate port_id n).2) = .success
  · simp [hport, hnpu]
  · have hsame : { n with port_unresolved := decide (port_id = .null) } = n ↔
        (n.port_unresolved = true ↔ port_id = .null) := by
      constructor
      · intro h
        rw [← congrArg Nh.port_unresolved h]
        exact decide_eq_true_iff
      · intro h
        have hmark : decide (port_id = .null) = n.port_unresolved := by
          rw [Bool.eq_iff_iff, h]
          exact decide_eq_true_iff
        rw [hmark]
    simpa [hport, hnpu] using hsame

/-- **When an event keeps port and mark together.** -/
theorem portSetExact_iff {fdb_upd : FdbUpdate} (h : NeighborsOk neighbors s)
    (hentry : s.neighbor_mac_tree fdb_upd.fdb_entry = some neighbors) :
    PortSetExact env fdb_upd neighbors s ↔ PortSetFits env fdb_upd.port neighbors s := by
  obtain ⟨hnh, -⟩ := neighborPortIdSetNodes_set env fdb_upd.port h .success
  have hrun : neighborFdbUpdate env fdb_upd s =
      neighborPortIdSetNodes env fdb_upd.port neighbors (.success, s) := by
    simp only [neighborFdbUpdate, neighborPortIdSet, hentry]
  unfold PortSetExact
  rw [hrun]
  generalize (neighborPortIdSetNodes env fdb_upd.port neighbors (.success, s)).2 = t at hnh ⊢
  generalize fdb_upd.port = port_id at *
  rw [and_iff_left fun p hp => (hnh p).trans (if_neg hp)]
  refine forall₂_congr fun p hp => ?_
  rw [hnh p, if_pos hp]
  exact portSetNode_exact_iff

/-! ## What the encap next hops are told -/

def ExtCall.toEncap : ExtCall → Bool
  | .encapNhNeighborAttrSet .. => true
  | _ => false

theorem encapCallsOk_quiet (hquiet : ∀ c ∈ calls, c.1.toEncap = false) : EncapCallsOk t updated calls := by
  induction calls generalizing updated with
  | nil => trivial
  | cons c calls ih =>
    obtain ⟨c, rc⟩ := c
    have hrest := fun u => @ih u fun c hc => hquiet c (List.mem_cons_of_mem _ hc)
    have hc := hquiet _ List.mem_cons_self
    cases c <;> first | exact hrest _ | simp [ExtCall.toEncap] at hc

theorem encapCallsOk_suffix {before : List (ExtCall × Status)} (h : EncapCallsOk t updated (before ++ calls)) :
    ∃ updated, EncapCallsOk t updated calls := by
  induction before generalizing updated with
  | nil => exact ⟨updated, h⟩
  | cons c before ih =>
    obtain ⟨c, rc⟩ := c
    cases c <;> first | exact ih h | exact ih h.2

theorem encapCallsOk_deps {attr_info : Nh} {flags : NeighborFlags} {rc : Ptr → Status} (encap_nhs : List Ptr)
    (hnew : ∃ node, updated = some node ∧ node.key = (t.nh p).key ∧ flags.Same attr_info (t.nh p))
    (h : EncapCallsOk t updated calls) :
    EncapCallsOk t updated
      (encap_nhs.map (fun e => (.encapNhNeighborAttrSet e p attr_info flags, rc e)) ++ calls) := by
  induction encap_nhs with
  | nil => exact h
  | cons e encap_nhs ih => exact ⟨hnew, ih⟩

theorem neighborPortIdSet_learns_iff {key : MacKey} (h : NeighborsOk neighbors s)
    (hentry : s.neighbor_mac_tree key = some neighbors) :
    EncapLearns s (neighborPortIdSet env key port_id s).2 ↔
      ∀ p ∈ neighbors, (s.nh p).port_id ≠ port_id → (s.nh p).dep_encap_nh_list = [] := by
  obtain ⟨hnh, hlog⟩ := neighborPortIdSetNodes_set env port_id h .success
  simp only [neighborPortIdSet, hentry]
  generalize (neighborPortIdSetNodes env port_id neighbors (.success, s)).2 = t at hnh hlog ⊢
  constructor
  · rintro ⟨calls, hcalls, hok, -⟩ p hp hport
    cases hdeps : (s.nh p).dep_encap_nh_list with
    | nil => rfl
    | cons e encap_nhs =>
      exfalso
      obtain rfl := List.append_cancel_left (hlog.symm.trans hcalls)
      obtain ⟨pre, post, hsplit⟩ := List.append_of_mem hp
      rw [hsplit, List.flatMap_append, List.flatMap_cons, portSetCalls, if_neg hport, hdeps] at hok
      obtain ⟨updated, hok⟩ := encapCallsOk_suffix hok
      obtain ⟨⟨node, hnpu, -, hsame⟩, -⟩ := hok
      have hport' := hsame.port_id rfl
      rw [hnh p, if_pos hp, portSetNode, if_neg hport] at hport'
      split at hnpu
      next hok => exact hport (hport'.trans (if_pos hok))
      · exact absurd hnpu (by simp)
  · intro hnone
    refine ⟨_, hlog, encapCallsOk_quiet fun c hc => ?_, fun p hne e he => ?_⟩
    · obtain ⟨p, hp, hc⟩ := List.mem_flatMap.mp hc
      rw [portSetCalls] at hc
      split at hc
      · simp at hc
      rename_i hport
      rw [hnone p hp hport] at hc
      obtain rfl := List.mem_singleton.mp hc
      rfl
    · exfalso
      rw [hnh p] at hne
      split at hne
      next hp =>
        by_cases hport : (s.nh p).port_id = port_id
        · exact hne (if_pos hport)
        · rw [hnone p hp hport] at he
          simp at he
      · exact hne rfl

/-- None of the calls that were made is for an encap next hop. -/
def QuietLog (s t : Fib) : Prop :=
  ∃ calls, t.npu_log = s.npu_log ++ calls ∧ ∀ c ∈ calls, c.1.toEncap = false

theorem QuietLog.refl (s : Fib) : QuietLog s s := ⟨[], by simp, by simp⟩

theorem QuietLog.trans {u : Fib} (h : QuietLog s t) (k : QuietLog t u) : QuietLog s u := by
  obtain ⟨calls, hlog, hquiet⟩ := h
  obtain ⟨calls', hlog', hquiet'⟩ := k
  refine ⟨calls ++ calls', by rw [hlog', hlog, List.append_assoc], fun c hc => ?_⟩
  rcases List.mem_append.mp hc with hc | hc
  · exact hquiet c hc
  · exact hquiet' c hc

theorem neighborMacEntryRemove_quiet : QuietLog s (neighborMacEntryRemove env p s).2 := by
  unfold neighborMacEntryRemove
  split
  · exact .refl s
  · exact .refl s
  split
  · exact .refl s
  dsimp only
  split
  · exact ⟨[_], rfl, by simp [ExtCall.toEncap]⟩
  · exact ⟨[], by simp [macTreeSet], by simp⟩

theorem neighborMacEntryInsert_quiet : QuietLog s (neighborMacEntryInsert env p s).2 := by
  unfold neighborMacEntryInsert
  split
  · exact .refl s
  · exact .refl s
  split
  · exact ⟨[], by simp [macTreeSet], by simp⟩
  split
  · exact .refl s
  split
  · exact .refl s
  dsimp only
  split
  · exact ⟨[_], rfl, by simp [ExtCall.toEncap]⟩
  · exact QuietLog.trans ⟨[_], rfl, by simp [ExtCall.toEncap]⟩ neighborMacEntryRemove_quiet

theorem neighborAttributeCommit_node (env n) (hp : s.NhLive p) (resolved : Bool) :
    let t := neighborAttributeCommit env p n resolved s
    (∀ q, t.nh q = if q = p then n else s.nh q) ∧ QuietLog s t := by
  cases resolved with
  | false => exact ⟨nh_modNh hp _, .refl s⟩
  | true =>
    have hremove := macOnly_neighborMacEntryRemove env p s
    have hquiet : QuietLog s (neighborMacEntryRemove env p s).2 := neighborMacEntryRemove_quiet
    simp only [neighborAttributeCommit, if_true]
    generalize (neighborMacEntryRemove env p s).2 = u at *
    refine ⟨fun q => ?_, hquiet.trans neighborMacEntryInsert_quiet⟩
    rw [(macOnly_neighborMacEntryInsert env p _).nh, nh_modNh ((hremove.live p).mpr hp), hremove.nh]

theorem neighborAttributeSet_learns (h : NodeTrees s) (entry : NeighborEntry) (attr : NeighborAttr) :
    EncapLearns s (neighborAttributeSet env entry attr s).2 := by
  have hsame : EncapLearns s s := ⟨[], by simp, trivial, fun p hne => absurd rfl hne⟩
  unfold neighborAttributeSet
  split
  · exact hsame
  rename_i p hget
  obtain ⟨hlive, -⟩ := neighborNodeGet_ok h hget
  split
  · exact hsame
  rename_i copy flags hfill
  dsimp only
  split
  · exact hsame
  rename_i copy hresolved
  by_cases hnpu : env.status (.neighborAttrSet copy flags) = .success
  · rw [andThen_of_success (x := s.call env _) hnpu, neighborDepEncapNhListUpdate_eq]
    generalize hu : ({ (s.call env (.neighborAttrSet copy flags)).2 with npu_log := _ } : Fib) = u
    have hnodes : ∀ q, u.nh q = s.nh q := fun q => hu ▸ rfl
    have hulive : u.NhLive p := hu ▸ hlive
    have hcalls := congrArg Fib.npu_log hu.symm
    dsimp only at hcalls ⊢
    obtain ⟨hnh, calls, hlog, hquiet⟩ := neighborAttributeCommit_node env copy
      hulive (isMacEntryResolved flags (s.nh p))
    generalize neighborAttributeCommit env p copy _ u = t at hnh hlog ⊢
    rw [hcalls, call, List.append_assoc, List.append_assoc] at hlog
    refine ⟨_, hlog, ?_, fun q hne e he => ?_⟩
    · have hp : t.nh p = copy := (hnh p).trans (if_pos rfl)
      have hown : flags.Same copy (t.nh p) := by
        rw [hp]
        exact ⟨fun _ => rfl, fun _ => rfl, fun _ => rfl, fun _ => rfl, fun _ => rfl⟩
      show EncapCallsOk t (if env.status (.neighborAttrSet copy flags) = .success then some copy else none) _
      rw [if_pos hnpu]
      exact encapCallsOk_deps _ ⟨copy, rfl, by rw [hp], hown⟩ (encapCallsOk_quiet hquiet)
    · have hq : q = p := by
        by_contra hq
        exact hne ((hnh q).trans ((if_neg hq).trans (hnodes q)))
      rw [hq] at he ⊢
      refine ⟨copy, flags, env.status (.encapNhNeighborAttrSet e p copy flags),
        List.mem_append_right _ (List.mem_append_left _ ?_)⟩
      exact List.mem_map.mpr ⟨e, he, rfl⟩
  · rw [andThen_of_failure (x := s.call env _) hnpu]
    refine ⟨[_], rfl, trivial, fun q hne => absurd rfl hne⟩

/-- **When the encap next hops learn what is new.** An attribute that is set is told to them; an event is
told as it should be only if no neighbor that it gives another port has any. -/
theorem encapLearns_iff (env : Env) :
    (∀ s entry attr, NodeTrees s → EncapLearns s (neighborAttributeSet env entry attr s).2) ∧
    ∀ s (fdb_upd : FdbUpdate) neighbors, NeighborsOk neighbors s →
      s.neighbor_mac_tree fdb_upd.fdb_entry = some neighbors →
      (EncapLearns s (neighborFdbUpdate env fdb_upd s).2 ↔
        ∀ p ∈ neighbors, (s.nh p).port_id ≠ fdb_upd.port → (s.nh p).dep_encap_nh_list = []) :=
  ⟨fun _ entry attr h => neighborAttributeSet_learns h entry attr,
    fun _ _ _ h hentry => neighborPortIdSet_learns_iff h hentry⟩

/-! ## A MAC entry with one neighbor -/

def vlan10Mac8 : MacKey := ⟨⟨.vlan, 10⟩, 8⟩

def oneMacEntry (n : Nh) : Fib :=
  { Fib.init 4 with
    nhs := Heap.empty.alloc n
    neighbor_mac_tree := fun key => if key = vlan10Mac8 then some [1] else none }

theorem neighborsOk_oneMacEntry (n : Nh) : NeighborsOk [1] (oneMacEntry n) := by
  refine ⟨by simp, fun p hp => ?_⟩
  obtain rfl := List.mem_singleton.mp hp
  rfl

theorem portSetExact_iff_learned :
    PortSetExact (.good 1) ⟨.learned, vlan10Mac8, ⟨.port, 3⟩⟩ [1] (oneMacEntry Nh.zero) := by
  refine (portSetExact_iff (neighborsOk_oneMacEntry _) rfl).mpr fun p hp h => ?_
  obtain rfl := List.mem_singleton.mp hp
  rcases h with h | ⟨-, h⟩
  · exact absurd h (by decide)
  · exact absurd rfl h

/-- The NPU refuses what it is asked. -/
def refusing : Env := { Env.good 1 with status := fun _ => .failure }

/-- **The counterexample.** The entry ages, the NPU refuses, and the neighbor is left with its port and
with the mark. -/
theorem not_portSetExact_aged :
    ¬ PortSetExact refusing ⟨.aged, vlan10Mac8, .null⟩ [1]
      (oneMacEntry { Nh.zero with port_id := ⟨.port, 3⟩ }) := by
  intro h
  have hsame := (h.1 1 (by simp)).1 ⟨by decide, by decide⟩
  exact absurd (congrArg Nh.port_unresolved hsame) (by decide)

theorem encapLearns_iff_learned :
    EncapLearns (oneRif .vlan .null)
      (neighborAttributeSet (.good 1) oneNeighbor (.metaData 3) (oneRif .vlan .null)).2 ∧
    EncapLearns (oneMacEntry Nh.zero)
      (neighborFdbUpdate (.good 1) ⟨.learned, vlan10Mac8, ⟨.port, 3⟩⟩ (oneMacEntry Nh.zero)).2 := by
  refine ⟨(encapLearns_iff _).1 _ _ _ (noNextHops_oneRif _ _).nodeState.toNodeTrees,
    ((encapLearns_iff _).2 _ _ _ (neighborsOk_oneMacEntry _) rfl).mpr fun p hp _ => ?_⟩
  obtain rfl := List.mem_singleton.mp hp
  rfl

/-- **The counterexample.** A port is learned for a neighbor with an encap next hop. -/
theorem not_encapLearns_learned :
    ¬ EncapLearns (oneMacEntry { Nh.zero with dep_encap_nh_list := [2] })
      (neighborFdbUpdate (.good 1) ⟨.learned, vlan10Mac8, ⟨.port, 3⟩⟩
        (oneMacEntry { Nh.zero with dep_encap_nh_list := [2] })).2 := by
  intro h
  have hnone := (neighborPortIdSet_learns_iff (neighborsOk_oneMacEntry _) rfl).mp h 1 (by simp) (by decide)
  exact absurd hnone (by decide)

end OpxSai
