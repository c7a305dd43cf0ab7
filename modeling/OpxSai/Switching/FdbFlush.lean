import Mathlib.Data.List.MinMax
import Mathlib.Data.List.TakeWhile
import Mathlib.Data.Prod.Lex
import OpxSai.Switching.FdbCache

/-!
# FDB — the loops of a flush

A flush goes through the tree by the key of the node that it has been at, and starts from the key with
the address zero, so that a node under that very key is passed over.

* `flushWalk` — the loop, which asks the tree for the next node after each turn;
* `FdbFlushExact` — the NPU is asked for the entries that match, and the cache loses those it flushed;
* `fdbFlushExact_iff` — so exactly when no entry that matches is at the start or below;
* `l2FlushFdbEntryWalk_of_run` — in every run the loops end, and do what they do over the list of nodes.
-/

namespace OpxSai

/-! ## The loops -/

section Loops

def FdbDb.flushNode (env : FdbEnv) (flag : Bool) (n : FdbNode) (db : FdbDb) : FdbDb :=
  let x := db.call env (.flushFdbEntry n.fdb_key flag)
  if x.1 ≠ .success then x.2 else x.2.removeNode n.fdb_key

variable [LinearOrder FdbKey]

/-- `sai_get_next_fdb_entry_node`: the least key above. -/
def FdbDb.nextNode (fdb_key : FdbKey) (db : FdbDb) : Option FdbNode :=
  (db.nodes.filter fun n => fdb_key < n.fdb_key).argmin FdbNode.fdb_key

def flushWalk (env : FdbEnv) (stop hit : FdbNode → Bool) (flag : Bool) :
    Nat → FdbKey → FdbDb → Option FdbDb
  | 0, _, _ => none
  | turns + 1, fdb_key, db =>
    match db.nextNode fdb_key with
    | none => some db
    | some n =>
      if stop n then some db
      else flushWalk env stop hit flag turns n.fdb_key (if hit n then db.flushNode env flag n else db)

/-- `sai_delete_all_fdb_entry_nodes` -/
def walkAllFdbEntryNodes (env : FdbEnv) (delete_all : Bool) (type : FdbEntryType) (turns : Nat)
    (db : FdbDb) : Option FdbDb :=
  flushWalk env (fun _ => false) (fun n => delete_all || type = n.entry_type) false turns ⟨0, 0⟩ db

/-- `sai_delete_fdb_entry_nodes_per_port` -/
def walkFdbEntryNodesPerPort (env : FdbEnv) (port_id : Oid) (delete_all : Bool) (type : FdbEntryType)
    (turns : Nat) (db : FdbDb) : Option FdbDb :=
  flushWalk env (fun _ => false)
    (fun n => n.port_id = port_id && (delete_all || type = n.entry_type)) true turns ⟨0, 0⟩ db

/-- `sai_delete_fdb_entry_nodes_per_vlan` -/
def walkFdbEntryNodesPerVlan (env : FdbEnv) (vlan_id : Nat) (delete_all : Bool) (type : FdbEntryType)
    (turns : Nat) (db : FdbDb) : Option FdbDb :=
  flushWalk env (fun n => n.fdb_key.vlan_id ≠ vlan_id)
    (fun n => delete_all || type = n.entry_type) false turns ⟨vlan_id, 0⟩ db

/-- `sai_delete_fdb_entry_nodes_per_port_vlan` -/
def walkFdbEntryNodesPerPortVlan (env : FdbEnv) (port_id : Oid) (vlan_id : Nat) (delete_all : Bool)
    (type : FdbEntryType) (turns : Nat) (db : FdbDb) : Option FdbDb :=
  flushWalk env (fun n => n.fdb_key.vlan_id ≠ vlan_id)
    (fun n => n.port_id = port_id && (delete_all || type = n.entry_type)) true turns ⟨vlan_id, 0⟩ db

/-- `sai_l2_flush_fdb_entry`, by its loops. -/
def l2FlushFdbEntryWalk (env : FdbEnv) (attr_list : List FdbFlushAttr) (turns : Nat) (db : FdbDb) :
    Status × Option FdbDb :=
  match fdbFlushScan 0 attr_list ⟨.null, vlanUndef, .dynamic, true⟩ with
  | .error rc => (rc, some db)
  | .ok scan =>
    let rc := fdbFlushCheck env scan
    if rc ≠ .success then (rc, some db)
    else if scan.port_id = .null ∧ scan.vlan_id = vlanUndef then
      (.success, walkAllFdbEntryNodes env scan.delete_all scan.flush_type turns db)
    else if scan.vlan_id = vlanUndef then
      (.success, walkFdbEntryNodesPerPort env scan.port_id scan.delete_all scan.flush_type turns db)
    else if scan.port_id = .null then
      (.success, walkFdbEntryNodesPerVlan env scan.vlan_id scan.delete_all scan.flush_type turns db)
    else
      (.success, walkFdbEntryNodesPerPortVlan env scan.port_id scan.vlan_id scan.delete_all
        scan.flush_type turns db)

end Loops

/-! ## The property and the condition -/

namespace FdbFlushScan

def matched (scan : FdbFlushScan) (n : FdbNode) : Bool :=
  (scan.port_id = .null || n.port_id = scan.port_id) &&
    (scan.vlan_id = vlanUndef || n.fdb_key.vlan_id = scan.vlan_id) &&
    (scan.delete_all || scan.flush_type = n.entry_type)

def call (scan : FdbFlushScan) (n : FdbNode) : FdbCall :=
  .flushFdbEntry n.fdb_key (scan.port_id ≠ .null)

end FdbFlushScan

def VlansTogether [LinearOrder FdbKey] : Prop :=
  ∀ a b c : FdbKey, a ≤ b → b ≤ c → a.vlan_id = c.vlan_id → b.vlan_id = c.vlan_id

def FdbSorted [LinearOrder FdbKey] (db : FdbDb) : Prop :=
  db.nodes.Pairwise fun m n => m.fdb_key < n.fdb_key

/-- What a flush has done: the calls to the NPU are those for the entries that match, and the entries
that it has flushed are gone. -/
def FdbFlushed (scan : FdbFlushScan) (db db' : FdbDb) : Prop :=
  ∃ asked : CallLog FdbCall, db'.outside_log = db.outside_log ++ asked ∧
    asked.map Prod.fst = (db.nodes.filter scan.matched).map scan.call ∧
    db'.nodes = db.nodes.filter fun n => (scan.call n, Status.success) ∉ asked

def FdbFlushExact [LinearOrder FdbKey] (env : FdbEnv) (attr_list : List FdbFlushAttr)
    (scan : FdbFlushScan) (db : FdbDb) : Prop :=
  ∃ db', l2FlushFdbEntryWalk env attr_list (db.nodes.length + 1) db = (.success, some db') ∧
    FdbFlushed scan db db'

/-! ## The loop as a walk over a list -/

theorem flushNode_nodes (db : FdbDb) (env : FdbEnv) (flag : Bool) (n : FdbNode) :
    (db.flushNode env flag n).nodes =
    if env.outside db.outside_log (.flushFdbEntry n.fdb_key flag) ≠ .success then db.nodes
    else db.nodes.filter fun m => m.fdb_key ≠ n.fdb_key := by
  have hnodes := FdbDb.call_nodes env (.flushFdbEntry n.fdb_key flag) db
  unfold FdbDb.flushNode
  by_cases hrc : env.outside db.outside_log (.flushFdbEntry n.fdb_key flag) = .success
  · rw [if_ok (by exact hrc), if_ok hrc]
    exact congrArg (List.filter _) hnodes
  · rw [if_pos (by exact hrc), if_pos hrc]
    exact hnodes

/-- A list whose first nodes have a property and whose others have not. -/
theorem takeWhile_eq_filter {p : FdbNode → Bool} {nodes : List FdbNode}
    (h : nodes.Pairwise fun m n => p n = true → p m = true) : nodes.takeWhile p = nodes.filter p := by
  induction nodes with
  | nil => rfl
  | cons n nodes ih =>
    cases hp : p n with
    | true => rw [List.takeWhile_cons_of_pos hp, List.filter_cons_of_pos hp, ih h.of_cons]
    | false =>
      rw [List.takeWhile_cons_of_neg (by simp [hp]), List.filter_cons_of_neg (by simp [hp])]
      refine (List.filter_eq_nil_iff.mpr fun m hm hpm => ?_).symm
      exact absurd (List.rel_of_pairwise_cons h hm hpm) (by simp [hp])

section Walk

variable [LinearOrder FdbKey] {db : FdbDb} {env : FdbEnv} {stop hit : FdbNode → Bool} {flag : Bool}

theorem argmin_cons_of_lt {n} {nodes}
    (hleast : ∀ m ∈ nodes, n.fdb_key < m.fdb_key) :
    (n :: nodes).argmin FdbNode.fdb_key = some n := by
  rw [List.argmin_cons]
  cases hmin : nodes.argmin FdbNode.fdb_key with
  | none => rfl
  | some m => exact if_neg (hleast m (List.argmin_mem hmin)).not_gt

theorem FdbSorted.turn (h : FdbSorted db) {fdb_key} {n} {nodes}
    (hnodes : (db.nodes.filter fun m => fdb_key < m.fdb_key) = n :: nodes) (take : Bool) :
    let db' := if take then db.flushNode env flag n else db
    FdbSorted db' ∧ (db'.nodes.filter fun m => n.fdb_key < m.fdb_key) = nodes := by
  have hrest : (db.nodes.filter fun m => n.fdb_key < m.fdb_key) = nodes := by
    have hin : n ∈ db.nodes.filter fun m => fdb_key < m.fdb_key := by
      rw [hnodes]
      exact List.mem_cons_self
    have habove : fdb_key < n.fdb_key := by simpa using (List.mem_filter.mp hin).2
    have hless := hnodes ▸ h.filter _
    calc (db.nodes.filter fun m => n.fdb_key < m.fdb_key)
        = (db.nodes.filter fun m => fdb_key < m.fdb_key).filter fun m => n.fdb_key < m.fdb_key := by
          rw [List.filter_filter]
          refine List.filter_congr fun m _ => ?_
          simpa using fun hm => habove.trans hm
      _ = nodes := by
          rw [hnodes, List.filter_cons_of_neg (by simp)]
          exact List.filter_eq_self.mpr fun m hm => by simpa using List.rel_of_pairwise_cons hless hm
  intro db'
  cases take with
  | false => exact ⟨h, hrest⟩
  | true =>
    have hflushed := flushNode_nodes db env flag n
    split at hflushed
    · refine ⟨?_, ?_⟩
      · exact (congrArg (List.Pairwise _) hflushed).mpr h
      · exact (congrArg (List.filter _) hflushed).trans hrest
    refine ⟨?_, ?_⟩
    · exact (congrArg (List.Pairwise _) hflushed).mpr (h.filter _)
    · refine (congrArg (List.filter _) hflushed).trans ?_
      rw [List.filter_filter, ← hrest]
      refine List.filter_congr fun m _ => ?_
      simpa using fun hm => hm.ne'

/-- **The loop** is a walk over the nodes above its start, by induction on these. -/
theorem flushWalk_eq (nodes) : ∀ (db : FdbDb) (fdb_key : FdbKey) (turns : Nat),
    FdbSorted db → (db.nodes.filter fun m => fdb_key < m.fdb_key) = nodes → nodes.length < turns →
    flushWalk env stop hit flag turns fdb_key db =
      some (flushNodes env hit flag (nodes.takeWhile fun n => !stop n) db) := by
  induction nodes with
  | nil =>
    intro db fdb_key turns h hnodes hturns
    obtain ⟨turns, rfl⟩ := Nat.exists_eq_add_of_lt hturns
    simp only [flushWalk, FdbDb.nextNode, hnodes, List.argmin_nil]
    rfl
  | cons n nodes ih =>
    intro db fdb_key turns h hnodes hturns
    cases turns with
    | zero => omega
    | succ turns =>
      have hless := hnodes ▸ h.filter _
      have hnext : db.nextNode fdb_key = some n := by
        unfold FdbDb.nextNode
        rw [hnodes]
        exact argmin_cons_of_lt fun m hm => List.rel_of_pairwise_cons hless hm
      obtain ⟨hsorted, hrest⟩ := @FdbSorted.turn _ db env flag h fdb_key n nodes hnodes (hit n)
      simp only [flushWalk, hnext]
      cases hstop : stop n with
      | true =>
        rw [if_pos rfl, List.takeWhile_cons_of_neg (by simp [hstop])]
        rfl
      | false =>
        rw [if_neg (by simp), List.takeWhile_cons_of_pos (by simp [hstop]),
          ih _ n.fdb_key turns hsorted hrest (by simpa using hturns)]
        cases hhit : hit n with
        | true => simp only [flushNodes, hhit, if_true]; rfl
        | false => simp [flushNodes, hhit]

end Walk

/-! ## What a walk asks and takes -/

/-- **The walk** asks the NPU for the nodes that it is to take, and these leave the cache when they have
been flushed. -/
theorem flushNodes_flushed {env} {hit : FdbNode → Bool} {flag : Bool} {nodes} :
    ∀ db : FdbDb, ∃ asked : CallLog FdbCall,
      (flushNodes env hit flag nodes db).outside_log = db.outside_log ++ asked ∧
      asked.map Prod.fst = (nodes.filter hit).map (fun n => .flushFdbEntry n.fdb_key flag) ∧
      (flushNodes env hit flag nodes db).nodes =
        db.nodes.filter fun n => (.flushFdbEntry n.fdb_key flag, Status.success) ∉ asked := by
  induction nodes with
  | nil => exact fun db => ⟨[], by simp [flushNodes]⟩
  | cons n nodes ih =>
    intro db
    cases hhit : hit n with
    | false =>
      obtain ⟨asked, hlog, hcalls, hnodes⟩ := ih db
      refine ⟨asked, ?_, ?_, ?_⟩
      · simpa [flushNodes, hhit] using hlog
      · simpa [hhit] using hcalls
      · simpa [flushNodes, hhit] using hnodes
    | true =>
      obtain ⟨asked, hlog, hcalls, hnodes⟩ := ih (db.flushNode env flag n)
      have hwalk : flushNodes env hit flag (n :: nodes) db =
          flushNodes env hit flag nodes (db.flushNode env flag n) := by
        simp only [flushNodes, hhit, if_true]
        rfl
      have hlogged : (db.flushNode env flag n).outside_log = db.outside_log ++
          [(.flushFdbEntry n.fdb_key flag, env.outside db.outside_log (.flushFdbEntry n.fdb_key flag))] := by
        simp only [FdbDb.flushNode, FdbDb.call]
        split <;> rfl
      refine ⟨(.flushFdbEntry n.fdb_key flag,
        env.outside db.outside_log (.flushFdbEntry n.fdb_key flag)) :: asked, ?_, ?_, ?_⟩
      · rw [hwalk, hlog, hlogged, List.append_assoc]
        rfl
      · simp [hhit, hcalls]
      · rw [hwalk, hnodes, flushNode_nodes]
        split
        next hrc =>
          refine List.filter_congr fun m _ => ?_
          simp [Ne.symm hrc]
        rename_i hrc
        rw [List.filter_filter]
        refine List.filter_congr fun m _ => ?_
        simp only [not_not.mp hrc, List.mem_cons, Prod.mk.injEq, FdbCall.flushFdbEntry.injEq, and_true,
          not_or, Bool.decide_and, Bool.and_comm]

/-! ## When it is exact -/

namespace FdbFlushScan

variable (scan : FdbFlushScan)

def start : FdbKey := ⟨scan.vlan_id, 0⟩

def stop (n : FdbNode) : Bool := scan.vlan_id ≠ vlanUndef && n.fdb_key.vlan_id ≠ scan.vlan_id

def hit (n : FdbNode) : Bool :=
  (scan.port_id = .null || n.port_id = scan.port_id) && (scan.delete_all || scan.flush_type = n.entry_type)

end FdbFlushScan

section Exact

variable [LinearOrder FdbKey] {env : FdbEnv} {attr_list : List FdbFlushAttr} {scan : FdbFlushScan} {db : FdbDb}

theorem l2FlushFdbEntryWalk_eq (hscan : fdbFlushScan 0 attr_list ⟨.null, vlanUndef, .dynamic, true⟩ = .ok scan)
    (hcheck : fdbFlushCheck env scan = .success) (turns : Nat) :
    l2FlushFdbEntryWalk env attr_list turns db =
      (.success, flushWalk env scan.stop scan.hit (scan.port_id ≠ .null) turns scan.start db) := by
  unfold l2FlushFdbEntryWalk
  rw [hscan]
  simp only [hcheck]
  have hstop : scan.vlan_id = vlanUndef → scan.stop = fun _ => false := fun hvlan => by
    funext n
    simp [FdbFlushScan.stop, hvlan]
  have hstop' : scan.vlan_id ≠ vlanUndef → scan.stop = fun n : FdbNode => n.fdb_key.vlan_id ≠ scan.vlan_id :=
    fun hvlan => by
      funext n
      simp [FdbFlushScan.stop, hvlan]
  by_cases hport : scan.port_id = .null
  · have hhit : scan.hit = fun n => scan.delete_all || scan.flush_type = n.entry_type := by
      funext n
      simp [FdbFlushScan.hit, hport]
    by_cases hvlan : scan.vlan_id = vlanUndef
    · simp [hport, hvlan, walkAllFdbEntryNodes, FdbFlushScan.start, hstop hvlan, hhit, vlanUndef]
    · simp [hport, hvlan, walkFdbEntryNodesPerVlan, FdbFlushScan.start, hstop' hvlan, hhit]
  have hhit : scan.hit = fun n =>
      n.port_id = scan.port_id && (scan.delete_all || scan.flush_type = n.entry_type) := by
    funext n
    simp [FdbFlushScan.hit, hport]
  by_cases hvlan : scan.vlan_id = vlanUndef
  · simp [hport, hvlan, walkFdbEntryNodesPerPort, FdbFlushScan.start, hstop hvlan, hhit, vlanUndef]
  · simp [hport, hvlan, walkFdbEntryNodesPerPortVlan, FdbFlushScan.start, hstop' hvlan, hhit]

theorem flush_taken (htogether : VlansTogether) (h : FdbSorted db) :
    (((db.nodes.filter fun m => scan.start < m.fdb_key).takeWhile fun n => !scan.stop n).filter scan.hit) =
      db.nodes.filter fun n => scan.start < n.fdb_key && scan.matched n := by
  rw [takeWhile_eq_filter, List.filter_filter, List.filter_filter]
  · refine List.filter_congr fun n _ => ?_
    simp only [FdbFlushScan.stop, FdbFlushScan.hit, FdbFlushScan.matched]
    grind
  refine (h.filter _).imp_of_mem fun {m n} hm _ hless hn => ?_
  have habove : scan.start < m.fdb_key := by simpa using (List.mem_filter.mp hm).2
  have hvlan := htogether scan.start m.fdb_key n.fdb_key habove.le hless.le
  simp only [FdbFlushScan.stop, FdbFlushScan.start] at hn hvlan ⊢
  grind

/-- **A flush is exact** exactly when no entry that matches is at the key with the address zero, from
which the loop goes on, or below it. -/
theorem fdbFlushExact_iff (htogether : VlansTogether) (h : FdbSorted db)
    (hscan : fdbFlushScan 0 attr_list ⟨.null, vlanUndef, .dynamic, true⟩ = .ok scan)
    (hcheck : fdbFlushCheck env scan = .success) :
    FdbFlushExact env attr_list scan db ↔
      ∀ n ∈ db.nodes, scan.matched n = true → ⟨scan.vlan_id, 0⟩ < n.fdb_key := by
  have hwalk := @flushWalk_eq _ env scan.stop scan.hit (scan.port_id ≠ .null) _ db scan.start
    (db.nodes.length + 1) h rfl (Nat.lt_succ_of_le (List.length_filter_le _ _))
  obtain ⟨asked, hlog, hcalls, hnodes⟩ := flushNodes_flushed db
  rw [flush_taken htogether h] at hcalls
  unfold FdbFlushExact
  rw [l2FlushFdbEntryWalk_eq hscan hcheck, hwalk]
  constructor
  · rintro ⟨db', hdb', asked', hlog', hcalls', -⟩ n hn hmatched
    obtain rfl := Option.some.inj (Prod.mk.inj hdb').2
    obtain rfl := List.append_cancel_left (hlog.symm.trans hlog')
    have hasked : scan.call n ∈ asked.map Prod.fst := by
      rw [hcalls']
      exact List.mem_map_of_mem (List.mem_filter.mpr ⟨hn, hmatched⟩)
    rw [hcalls] at hasked
    obtain ⟨m, hm, hsame⟩ := List.mem_map.mp hasked
    have hkey : m.fdb_key = n.fdb_key := (FdbCall.flushFdbEntry.inj hsame).1
    rw [← hkey]
    exact of_decide_eq_true (Bool.and_eq_true_iff.mp (List.mem_filter.mp hm).2).1
  · intro habove
    refine ⟨_, rfl, asked, hlog, hcalls.trans ?_, hnodes⟩
    refine congrArg (List.map _) (List.filter_congr fun n hn => ?_)
    cases hmatched : scan.matched n with
    | false => simp
    | true =>
      rw [Bool.and_true]
      exact decide_eq_true (habove n hn hmatched)

end Exact

/-! ## The order of the numbers -/

/-- By VLAN, and by address within one. -/
@[reducible] def fdbKeyOrder : LinearOrder FdbKey :=
  LinearOrder.lift' (fun k : FdbKey => toLex (k.vlan_id, k.mac_address)) fun a b h => by
    obtain ⟨v, m⟩ := a
    obtain ⟨v', m'⟩ := b
    obtain ⟨rfl, rfl⟩ := Prod.mk.inj (toLex.injective h)
    rfl

theorem fdbKeyOrder_lt {a b} : fdbKeyOrder.lt a b ↔ ¬ b.le a := by
  refine Prod.Lex.toLex_lt_toLex.trans ?_
  unfold FdbKey.le
  omega

theorem fdbKeyOrder_together : @VlansTogether fdbKeyOrder := by
  intro a b c hab hbc hvlan
  have hab' := Prod.Lex.toLex_le_toLex.mp hab
  have hbc' := Prod.Lex.toLex_le_toLex.mp hbc
  simp only at hab' hbc'
  omega

theorem l2FlushFdbEntryWalk_list {env} {attr_list} {db}
    (h : @FdbSorted fdbKeyOrder db) :
    @l2FlushFdbEntryWalk fdbKeyOrder env attr_list (db.nodes.length + 1) db =
      ((l2FlushFdbEntry env attr_list db).1, some (l2FlushFdbEntry env attr_list db).2) := by
  let _ := fdbKeyOrder
  have hwalk : ∀ stop hit flag key, flushWalk env stop hit flag (db.nodes.length + 1) key db =
      some (flushNodes env hit flag ((db.nodesAfter key).takeWhile fun n => !stop n) db) := by
    intro stop hit flag key
    refine flushWalk_eq _ db key _ h ?_ (Nat.lt_succ_of_le (List.length_filter_le _ _))
    refine List.filter_congr fun n _ => ?_
    exact decide_eq_decide.mpr fdbKeyOrder_lt
  unfold l2FlushFdbEntryWalk l2FlushFdbEntry
  cases fdbFlushScan 0 attr_list ⟨.null, vlanUndef, .dynamic, true⟩ with
  | error rc => rfl
  | ok scan =>
    simp only [walkAllFdbEntryNodes, walkFdbEntryNodesPerPort, walkFdbEntryNodesPerVlan,
      walkFdbEntryNodesPerPortVlan, hwalk, deleteAllFdbEntryNodes, deleteFdbEntryNodesPerPort,
      deleteFdbEntryNodesPerVlan, deleteFdbEntryNodesPerPortVlan, FdbDb.nodesOfVlan]
    have hall : ∀ nodes : List FdbNode, nodes.takeWhile (fun _ => true) = nodes := fun nodes =>
      List.takeWhile_eq_self_iff.mpr fun _ _ => rfl
    split_ifs <;> simp [hall]

def oneFdbEntry (mac_address : Nat) : FdbDb :=
  { FdbDb.initial 10 true (fun _ => none) with nodes := [.zero ⟨10, mac_address⟩] }

theorem fdbFlushExact_iff_vlan10 :
    @FdbFlushExact fdbKeyOrder .good [.vlanId 10] ⟨.null, 10, .dynamic, true⟩ (oneFdbEntry 5) := by
  let _ := fdbKeyOrder
  have hsorted : FdbSorted (oneFdbEntry 5) := List.pairwise_singleton _ _
  refine (fdbFlushExact_iff fdbKeyOrder_together hsorted rfl rfl).mpr ?_
  intro n hn _
  rw [List.mem_singleton.mp hn]
  exact fdbKeyOrder_lt.mpr (by decide)

/-- The entry with the address zero stays. -/
theorem not_fdbFlushExact :
    ¬ @FdbFlushExact fdbKeyOrder .good [.vlanId 10] ⟨.null, 10, .dynamic, true⟩ (oneFdbEntry 0) := by
  rintro ⟨db', hdb', asked, hlog, hcalls, -⟩
  have hsame : db' = oneFdbEntry 0 := (Option.some.inj (Prod.mk.inj hdb').2).symm
  subst hsame
  obtain rfl := List.append_cancel_left (hlog.symm.trans (List.append_nil _).symm)
  cases hcalls

/-! ## Runs -/

/-- The cache is in the order of its keys, and has each key once. -/
def FdbOrdered (db : FdbDb) : Prop := db.nodes.Pairwise fun m n => ¬ n.fdb_key.le m.fdb_key

namespace FdbOrdered

variable {db db' : FdbDb} {env : FdbEnv}

theorem sublist (h : FdbOrdered db) (hsub : db'.nodes.Sublist db.nodes) : FdbOrdered db' :=
  List.Pairwise.sublist hsub h

theorem insertNode (h : FdbOrdered db) (env) (n) : FdbOrdered (db.insertNode env n).2 := by
  unfold FdbDb.insertNode
  split
  · -- a node that is there keeps its place and its key
    refine List.pairwise_map.mpr (List.Pairwise.imp (fun {a b} hab => ?_) h)
    have hkey : ∀ m : FdbNode, (if m.fdb_key = n.fdb_key then n else m).fdb_key = m.fdb_key := fun m => by
      split
      next heq => exact heq.symm
      · rfl
    rwa [hkey, hkey]
  rename_i hnew
  split
  · -- a new one is put before the first node that it is not above, and no other has its key
    let le := fun a b : FdbNode => a.fdb_key.le b.fdb_key
    have htotal : Std.Total le := ⟨fun a b => by simp only [le, FdbKey.le]; omega⟩
    have htrans : IsTrans _ le := ⟨fun a b c hab hbc => by simp only [le, FdbKey.le] at *; omega⟩
    have hle : (db.nodes.orderedInsert le n).Pairwise le :=
      List.Pairwise.orderedInsert n db.nodes (List.Pairwise.imp (fun hab => (htotal.total _ _).resolve_right hab) h)
    have hne : (db.nodes.orderedInsert le n).Pairwise fun a b => a.fdb_key ≠ b.fdb_key := by
      refine ((List.perm_orderedInsert le n db.nodes).pairwise_iff fun hab => hab.symm).mpr
        (List.pairwise_cons.mpr ⟨fun m hm heq => hnew ?_, List.Pairwise.imp (fun hab heq => hab ?_) h⟩)
      · exact (FdbDb.node_isSome _ db).mpr ⟨m, hm, heq.symm⟩
      · rw [heq]
        exact .inr ⟨rfl, le_rfl⟩
    refine (hle.and hne).imp fun {a b} hab hba => hab.2 ?_
    obtain ⟨hab, -⟩ := hab
    obtain ⟨⟨v, m⟩, _⟩ := a
    obtain ⟨⟨v', m'⟩, _⟩ := b
    simp only [le, FdbKey.le] at hab hba
    simp only [FdbKey.mk.injEq]
    omega
  · exact h

theorem flushNodes (hit) (flag) (nodes) : ∀ db : FdbDb, (flushNodes env hit flag nodes db).nodes.Sublist db.nodes := by
  induction nodes with
  | nil => exact fun db => List.Sublist.refl _
  | cons n nodes ih =>
    intro db
    unfold OpxSai.flushNodes
    split
    · refine (ih _).trans ?_
      split
      · simp
      · exact List.filter_sublist.trans (by simp)
    · exact ih db

theorem event (h : FdbOrdered db) (e) : FdbOrdered (fdbEvent e db).2 := by
  unfold fdbEvent
  split
  · split
    · exact h.sublist (by simp)
    · exact h.insertNode _ _
  split
  · exact h.sublist List.filter_sublist
  · exact h

theorem events (data) : ∀ db : FdbDb, FdbOrdered db → FdbOrdered (fdbEvents data db).2 := by
  induction data with
  | nil => exact fun _ h => h
  | cons e data ih => exact fun db h => ih _ (@event (e.occur db) h e)

theorem step (h : FdbOrdered db) (op) : FdbOrdered (fdbStep op db) := by
  cases op with
  | create env fdb_entry attr_list =>
    simp only [fdbStep, l2CreateFdbEntry]
    repeat' split
    all_goals first | exact h | skip
    · exact insertNode (h.sublist (by simp)) _ _
    · exact h.sublist (by simp)
  | remove env fdb_entry =>
    simp only [fdbStep, l2RemoveFdbEntry]
    split
    · exact h
    simp only
    split
    · exact h.sublist (by simp)
    · exact h.sublist (List.filter_sublist.trans (by simp))
  | flush env attr_list =>
    simp only [fdbStep, l2FlushFdbEntry]
    repeat' split
    all_goals first | exact h | exact h.sublist (flushNodes _ _ _ _)
  | events data =>
    simp only [fdbStep, commonFdbEventNotification]
    split
    · exact h.sublist (by rw [(FdbDb.occurAll_nodes data db).1])
    split
    · exact events data db h
    · exact events data db h

end FdbOrdered

/-- **In every run** a flush ends, and does what it does to the list of the nodes. -/
theorem l2FlushFdbEntryWalk_of_run {max_macs : Nat} {registered : Bool} {hardware : FdbKey → Option Oid}
    {db : FdbDb} (hrun : Run fdbStep (fun _ _ => True) (.initial max_macs registered hardware) db) (env) (attr_list) :
    @l2FlushFdbEntryWalk fdbKeyOrder env attr_list (db.nodes.length + 1) db =
      ((l2FlushFdbEntry env attr_list db).1, some (l2FlushFdbEntry env attr_list db).2) := by
  have hordered := hrun.induct (P := FdbOrdered) (fun op _ h _ => h.step op) List.Pairwise.nil
  exact l2FlushFdbEntryWalk_list (List.Pairwise.imp (fun hab => fdbKeyOrder_lt.mpr hab) hordered)

theorem l2FlushFdbEntryWalk_of_run_learned :
    let db := fdbStep (.events [mac5Learned .good 1]) (.initial 10 true fun _ => none)
    @l2FlushFdbEntryWalk fdbKeyOrder .good [.vlanId 10] 2 db =
      ((l2FlushFdbEntry .good [.vlanId 10] db).1, some (l2FlushFdbEntry .good [.vlanId 10] db).2) := by
  intro db
  exact l2FlushFdbEntryWalk_of_run (.one (.events [mac5Learned .good 1]) trivial) .good [.vlanId 10]

end OpxSai
