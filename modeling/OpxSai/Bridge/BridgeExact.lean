import OpxSai.Bridge.BridgeBooks
import OpxSai.Lib.Run

/-!
# Bridge ports — the books over any run

The counters and the maps are those of the live bridge ports after any run of the create and remove
calls, with any helper failing but those whose failure the source does not take back, and a call that
fails changes nothing of them.

* `bridgeExact_of_run` — the books over any run.
-/

namespace OpxSai
variable {db' db : BridgeDb} {x : Status × BridgeDb} {bridge_id : Oid} {env : BridgeEnv}
variable {attr : BridgePortAttr} {attr_list : List BridgePortAttr} {p : BridgePortInfo}

/-! ## Invariant and conditions -/

variable {scan : BridgePortScan} {info : BridgePortInfo}

/-- The books are exact, and every live bridge port has been checked and is on a bridge. -/
structure BridgeOk (db : BridgeDb) : Prop where
  books : BridgeBooksOf db.bridge_ports db.books
  ids : BridgePortIds db.bridge_ports
  sited : ∀ p ∈ db.bridge_ports, p.Sited
  known : ∀ p ∈ db.bridge_ports, (db.bridges p.bridge_id).isSome = true

theorem BridgeOk.kept (h : BridgeOk db) (hkept : BridgeKept db db') (hbooks : db'.books = db.books) :
    BridgeOk db' where
  books := by
    rw [hkept.ports, hbooks]
    exact h.books
  ids := by
    rw [hkept.ports]
    exact h.ids
  sited := by
    rw [hkept.ports]
    exact h.sited
  known := by
    rw [hkept.ports, hkept.bridges]
    exact h.known

/-- The NPU hands out ids that are not in use, and gives a bridge port that is created again its own. -/
def BridgeOn (c : BridgeOpCall) (db : BridgeDb) : Prop :=
  match c.op with
  | .create _ => db.bridges c.env.npu_bridge_id = none
  | .remove _ => True
  | .portCreate _ => c.env.npu_bridge_port_id ≠ .null ∧
      ∀ p ∈ db.bridge_ports, p.bridge_port_id ≠ c.env.npu_bridge_port_id
  | .portRemove bridge_port_id => c.env.npu_again_id bridge_port_id = bridge_port_id

/-- The helpers of a call whose failure it does not take back. -/
def BridgeOp.Exposed (db : BridgeDb) : BridgeOp → BridgeCall → Prop
  | .portCreate attr_list, k =>
    match k with
    -- the switch returns at once
    | .defBridgePortSet _ _ | .lagMapInsert _ _ => True
    -- the default bridge port has been set
    | .incr _ => .type .port ∈ attr_list
    -- part of taking back
    | .lagMapRemove _ _ | .bridgeDecr _ | .decr _ | .bridgePortCacheDelete _ => True
    | _ => False
  | .portRemove bridge_port_id, k =>
    match k with
    | .defBridgePortSet _ _ | .lagMapRemove _ _ => True
    | .decr _ => ∃ info, db.bridgePort bridge_port_id = some info ∧ info.bridge_port_type = .port
    | .lagMapInsert _ _ | .bridgeIncr _ | .incr _ | .vlanMapInsert _ _ _ | .tunnelMapInsert _ _ => True
    | _ => False
  | _, _ => False

/-- The calls looked at, with none of the exposed helpers failing. -/
structure BridgeOpOk (c : BridgeOpCall) (db : BridgeDb) : Prop where
  on : BridgeOn c db
  sure : ∀ k, c.op.Exposed db k → c.env.Does k

/-- What a call is to do: keep the invariant, and when it fails change neither the books nor the live
bridge ports. -/
structure BridgeDone (db : BridgeDb) (x : Status × BridgeDb) : Prop where
  ok : BridgeOk x.2
  failed : x.1 ≠ .success → x.2.books = db.books ∧ x.2.bridge_ports = db.bridge_ports

theorem BridgeOk.unchanged (h : BridgeOk db) (hkept : BridgeKept db x.2) (hbooks : x.2.books = db.books) :
    BridgeDone db x :=
  ⟨h.kept hkept hbooks, fun _ => ⟨hbooks, hkept.ports⟩⟩

/-! ## Bridges -/

/-- The bridges may change, but none with a bridge port on it goes. -/
structure BridgesWritten (db db' : BridgeDb) : Prop where
  ports : db'.bridge_ports = db.bridge_ports
  books : db'.books = db.books
  known : ∀ p ∈ db.bridge_ports, (db.bridges p.bridge_id).isSome = true →
    (db'.bridges p.bridge_id).isSome = true

namespace BridgesWritten

variable {db'' : BridgeDb}

theorem of_kept (hkept : BridgeKept db db') (hbooks : db'.books = db.books) : BridgesWritten db db' :=
  ⟨hkept.ports, hbooks, fun _ _ h => by rw [hkept.bridges]; exact h⟩

theorem trans (h : BridgesWritten db db') (k : BridgesWritten db' db'') : BridgesWritten db db'' :=
  ⟨k.ports.trans h.ports, k.books.trans h.books,
    fun p hp hin => k.known p (h.ports ▸ hp) (h.known p hp hin)⟩

theorem done (h : BridgesWritten db db') (hok : BridgeOk db) (rc) :
    BridgeDone db (rc, db') where
  ok :=
    { books := by
        show BridgeBooksOf db'.bridge_ports db'.books
        rw [h.ports, h.books]
        exact hok.books
      ids := by
        show BridgePortIds db'.bridge_ports
        rw [h.ports]
        exact hok.ids
      sited := fun p hp => hok.sited p (h.ports ▸ hp)
      known := fun p hp => h.known p (h.ports ▸ hp) (hok.known p (h.ports ▸ hp)) }
  failed _ := ⟨h.books, h.ports⟩

end BridgesWritten

theorem bridgeCacheWrite_written (env) (info)
    (hrefs : db.books.bridge_refs bridge_id = 0) :
    BridgesWritten db (db.call env (.bridgeCacheWrite bridge_id info)).2 := by
  unfold BridgeDb.call
  simp only
  split
  · exact ⟨rfl, rfl, fun _ _ h => h⟩
  refine ⟨rfl, ?_, fun p _ h => ?_⟩
  · -- the count starts at zero, where it is
    refine BridgeBooks.ext_of (fun o => ?_) (fun _ => rfl) (fun _ => rfl) (fun _ _ => rfl)
      (fun _ _ => rfl) fun _ _ => rfl
    show (if o = bridge_id then 0 else db.books.bridge_refs o) = db.books.bridge_refs o
    split
    next ho => rw [ho, hrefs]
    · rfl
  · show (if p.bridge_id = bridge_id then some info else db.bridges p.bridge_id).isSome = true
    split
    · rfl
    · exact h

theorem bridgeCacheDelete_written (env) (hnone : ∀ p ∈ db.bridge_ports, p.bridge_id ≠ bridge_id) :
    BridgesWritten db (db.call env (.bridgeCacheDelete bridge_id)).2 := by
  unfold BridgeDb.call
  simp only
  split
  · exact ⟨rfl, rfl, fun _ _ h => h⟩
  refine ⟨rfl, rfl, fun p hp h => ?_⟩
  show (if p.bridge_id = bridge_id then none else db.bridges p.bridge_id).isSome = true
  rw [if_neg (hnone p hp)]
  exact h

theorem bridgeNpu_written (env) {c} (hc : c.KeepsCaches)
    (hnone : ∀ b : BridgeBooks, b.write c = b) (db) : BridgesWritten db (db.call env c).2 := by
  obtain ⟨hkept, hbooks⟩ := db.call_npu env hc hnone
  exact .of_kept hkept hbooks

theorem bridgeSetAttribute_written (env) (bridge_id) (attr)
    (db) : BridgesWritten db (bridgeSetAttribute env bridge_id attr db).2 := by
  have hcall := bridgeNpu_written env (c := .bridgeSetAttribute bridge_id attr) trivial (fun _ => rfl) db
  cases attr with
  | type | portList | unknown => exact ⟨rfl, rfl, fun _ _ h => h⟩
  | maxLearnedAddresses u32 | learnDisable booldata =>
    unfold bridgeSetAttribute
    simp only
    split
    · exact ⟨rfl, rfl, fun _ _ h => h⟩
    simp only
    split
    · exact hcall
    refine hcall.trans ⟨rfl, rfl, fun p _ h => ?_⟩
    show (if p.bridge_id = bridge_id then _ else _ : Option BridgeInfo).isSome = true
    split
    · rfl
    · exact h

theorem bridgeSetAttributes_written (env) (bridge_id) (attr_list) :
    ∀ x : Status × BridgeDb, BridgesWritten x.2 (bridgeSetAttributes env bridge_id attr_list x).2 := by
  induction attr_list with
  | nil => exact fun _ => ⟨rfl, rfl, fun _ _ h => h⟩
  | cons attr attr_list ih =>
    intro x
    have hset := bridgeSetAttribute_written env bridge_id attr x.2
    simp only [bridgeSetAttributes]
    split
    · split
      · exact hset
      · exact hset.trans (ih _)
    · exact ih x

theorem bridgeCreate_done (h : BridgeOk db)
    (hnew : db.bridges env.npu_bridge_id = none) {attr_list} :
    BridgeDone db (bridgeCreate env attr_list db) := by
  -- no live bridge port is on a bridge that is not in the cache
  have hnone : ∀ p ∈ db.bridge_ports, p.bridge_id ≠ env.npu_bridge_id := by
    intro p hp heq
    have hknown := h.known p hp
    rw [heq, hnew] at hknown
    cases hknown
  have hrefs : db.books.bridge_refs env.npu_bridge_id = 0 := by
    rw [h.books.bridges]
    exact List.countP_eq_zero.mpr fun p hp => by simpa using hnone p hp
  unfold bridgeCreate
  cases bridgeValidateAndFillMandatoryAttributes db.default_bridge_id attr_list with
  | error rc => exact h.unchanged (.refl db) rfl
  | ok bridge_type =>
    have ha := bridgeNpu_written env (c := .bridgeCreate) trivial (fun _ => rfl) db
    simp only
    generalize db.call _ _ = a at ha ⊢
    split
    · exact ha.done h a.1
    have hb := ha.trans (bridgeCacheWrite_written env ⟨bridge_type, 0, false⟩
      (by rw [ha.books]; exact hrefs))
    generalize a.2.call _ _ = b at hb ⊢
    split
    · exact (hb.trans (bridgeNpu_written env (c := .bridgeRemove env.npu_bridge_id) trivial
        (fun _ => rfl) b.2)).done h b.1
    have hc := hb.trans (bridgeSetAttributes_written env env.npu_bridge_id attr_list b)
    generalize bridgeSetAttributes _ _ _ b = c at hc ⊢
    split
    · have hd := hc.trans (bridgeNpu_written env (c := .bridgeRemove env.npu_bridge_id) trivial
        (fun _ => rfl) c.2)
      exact (hd.trans (bridgeCacheDelete_written env
        (by rw [hd.ports]; exact hnone))).done h c.1
    · exact hc.done h c.1

theorem bridgeRemove_done (h : BridgeOk db) :
    BridgeDone db (bridgeRemove env bridge_id db) := by
  unfold bridgeRemove
  split
  · exact h.unchanged (.refl db) rfl
  split
  · exact h.unchanged (.refl db) rfl
  split
  · exact h.unchanged (.refl db) rfl
  rename_i hrefs
  have hnone : ∀ p ∈ db.bridge_ports, p.bridge_id ≠ bridge_id := by
    intro p hp heq
    have hcount := h.books.bridges bridge_id
    have hpos : 0 < db.bridge_ports.countP fun p => decide (p.bridge_id = bridge_id) :=
      List.countP_pos_iff.mpr ⟨p, hp, decide_eq_true heq⟩
    omega
  have ha := bridgeNpu_written env (c := .bridgeRemove bridge_id) trivial (fun _ => rfl) db
  simp only
  generalize db.call _ _ = a at ha ⊢
  split
  · exact ha.done h a.1
  have hb := ha.trans (bridgeCacheDelete_written env (by rw [ha.ports]; exact hnone))
  generalize a.2.call _ _ = b at hb ⊢
  split
  · exact (hb.trans (bridgeNpu_written env (c := .bridgeCreate) trivial (fun _ => rfl) b.2)).done h b.1
  · exact hb.done h b.1

/-! ## What the checks on a bridge port leave -/

structure BridgePortChecked (attr_list : List BridgePortAttr) (db : BridgeDb) (info : BridgePortInfo) :
    Prop where
  sited : info.Sited
  bridge : (db.bridges info.bridge_id).isSome = true
  type : .type info.bridge_port_type ∈ attr_list
  def_port : info.bridge_port_type = .port → db.books.def_port info.port_id = .null
  vlan : info.bridge_port_type = .subPort → db.books.vlan_map info.port_id info.vlan_id = none

structure BridgePortScan.Ok (attr_list : List BridgePortAttr) (db : BridgeDb) (scan : BridgePortScan) :
    Prop where
  bridge : scan.bridge = true → (db.bridges scan.info.bridge_id).isSome = true
  port : scan.port_id ≠ .null → scan.port_id.type = .port ∨ scan.port_id.type = .lag
  type : ∀ type_idx, scan.type_idx = some type_idx → .type scan.info.bridge_port_type ∈ attr_list

theorem bridgePortFillAttr_ok {attr_idx : Nat} {scan scan'} (h : scan.Ok attr_list db)
    (hin : attr ∈ attr_list) (hok : bridgePortFillAttr env db attr_idx attr scan = .ok scan') :
    scan'.Ok attr_list db := by
  cases attr with
  | type s32 =>
    cases hok
    exact ⟨h.bridge, h.port, fun _ _ => hin⟩
  | portId oid =>
    simp only [bridgePortFillAttr] at hok
    split at hok
    · cases hok
    rename_i hvalid
    cases hok
    refine ⟨h.bridge, fun _ => ?_, h.type⟩
    have hor : bridgePortIsValidPort env oid = true := by simpa using hvalid
    simp only [bridgePortIsValidPort, Bool.or_eq_true, Bool.and_eq_true, decide_eq_true_eq] at hor
    exact hor.imp And.left And.left
  | vlanId | rifId | tunnelId =>
    simp only [bridgePortFillAttr] at hok
    split at hok
    · cases hok
    · cases hok
      exact ⟨h.bridge, h.port, h.type⟩
  | bridgeId oid =>
    simp only [bridgePortFillAttr] at hok
    split at hok
    · cases hok
    rename_i hsome
    cases hok
    refine ⟨fun _ => ?_, h.port, h.type⟩
    cases hbridge : db.bridges oid with
    | none => exact absurd (by rw [hbridge]; rfl) hsome
    | some bridge => rfl
  | unknown id => cases hok
  | fdbLearningMode | maxLearnedAddresses | fdbLearningLimitViolationPacketAction | adminState
  | ingressFiltering =>
    cases hok
    exact ⟨h.bridge, h.port, h.type⟩

theorem bridgePortFillFrom_ok {all} :
    ∀ (attr_list : List BridgePortAttr) (attr_idx : Nat) (scan scan' : BridgePortScan),
      scan.Ok all db → (∀ attr ∈ attr_list, attr ∈ all) →
      bridgePortFillFrom env db attr_idx attr_list scan = .ok scan' → scan'.Ok all db := by
  intro attr_list
  induction attr_list with
  | nil =>
    intro _ scan scan' h _ hok
    cases hok
    exact h
  | cons attr attr_list ih =>
    intro attr_idx scan scan' h hall hok
    simp only [bridgePortFillFrom] at hok
    split at hok
    · cases hok
    rename_i scan1 hfill
    refine ih _ scan1 scan' ?_ (fun a ha => hall a (List.mem_cons_of_mem _ ha)) hok
    exact bridgePortFillAttr_ok h (hall attr List.mem_cons_self) hfill

theorem bridgePortValidateAndFillAttachment_kept (scan) :
    BridgeKept db (bridgePortValidateAndFillAttachment env scan db).2 ∧
      (bridgePortValidateAndFillAttachment env scan db).2.books = db.books := by
  have hcall := db.call_npu env (c := .defBridgePortGet scan.port_id) trivial fun _ => rfl
  have hsame : BridgeKept db db ∧ db.books = db.books := ⟨.refl db, rfl⟩
  unfold bridgePortValidateAndFillAttachment
  cases scan.info.bridge_port_type with
  | port =>
    simp only
    generalize db.call _ _ = x at hcall ⊢
    split
    · exact hsame
    split
    · exact hsame
    split
    · exact hcall
    split
    · exact hcall
    · exact hcall
  | subPort =>
    simp only
    split
    · exact hsame
    split
    · exact hsame
    · exact hsame
  | router1Q | router1D =>
    simp only
    split
    · exact hsame
    · exact hsame
  | tunnel =>
    simp only
    split
    · exact hsame
    split
    · exact hsame
    · exact hsame
  | other => exact hsame

theorem bridgePortValidateAndFillAttributes_kept (env) (attr_list)
    (db) :
    BridgeKept db (bridgePortValidateAndFillAttributes env attr_list db).2 ∧
      (bridgePortValidateAndFillAttributes env attr_list db).2.books = db.books := by
  have hsame : BridgeKept db db ∧ db.books = db.books := ⟨.refl db, rfl⟩
  unfold bridgePortValidateAndFillAttributes
  split
  · exact hsame
  split
  · exact hsame
  split
  · exact hsame
  split
  · exact hsame
  · exact bridgePortValidateAndFillAttachment_kept _

theorem bridgePortValidateAndFillAttachment_ok (h : scan.Ok attr_list db)
    (hbridge : scan.bridge = true) {type_idx : Nat} (htype : scan.type_idx = some type_idx)
    (hok : (bridgePortValidateAndFillAttachment env scan db).1 = .ok info) :
    BridgePortChecked attr_list db info := by
  have hbooks := (db.call_npu env (c := .defBridgePortGet scan.port_id) trivial fun _ => rfl).2
  have hknown := h.bridge hbridge
  have hin := h.type _ htype
  have hport := h.port
  revert hok hin
  unfold bridgePortValidateAndFillAttachment
  cases hkind : scan.info.bridge_port_type with
  | port =>
    simp only
    generalize db.call _ _ = x at hbooks ⊢
    split
    · exact fun hok _ => (by cases hok)
    rename_i hnull
    split
    · exact fun hok _ => (by cases hok)
    split
    · exact fun hok _ => (by cases hok)
    split
    · exact fun hok _ => (by cases hok)
    rename_i hdef
    intro hok hin
    cases hok
    refine ⟨⟨fun s32 hs32 => ?_, fun _ => hport hnull⟩, hknown, ?_, fun _ => ?_, fun hsub => ?_⟩
    · exact absurd (hkind.symm.trans hs32) (by intro h; cases h)
    · show BridgePortAttr.type scan.info.bridge_port_type ∈ attr_list
      rw [hkind]
      exact hin
    · rw [hbooks] at hdef
      exact not_not.mp hdef
    · exact absurd (hkind.symm.trans hsub) (by intro h; cases h)
  | subPort =>
    simp only
    split
    · exact fun hok _ => (by cases hok)
    rename_i hsome
    split
    · exact fun hok _ => (by cases hok)
    rename_i hvlan
    intro hok hin
    cases hok
    refine ⟨⟨fun s32 hs32 => ?_, fun _ => hport fun hnull => hsome (.inl hnull)⟩, hknown, ?_,
      fun hyes => ?_, fun _ => ?_⟩
    · exact absurd (hkind.symm.trans hs32) (by intro h; cases h)
    · show BridgePortAttr.type scan.info.bridge_port_type ∈ attr_list
      rw [hkind]
      exact hin
    · exact absurd (hkind.symm.trans hyes) (by intro h; cases h)
    · exact Option.not_isSome_iff_eq_none.mp hvlan
  | router1Q | router1D =>
    simp only
    split
    · exact fun hok _ => (by cases hok)
    intro hok hin
    cases hok
    refine ⟨⟨fun s32 hs32 => ?_, fun honPort => ?_⟩, hknown, ?_, fun hyes => ?_, fun hyes => ?_⟩
    · exact absurd (hkind.symm.trans hs32) (by intro h; cases h)
    · simp [BridgePortInfo.onPort, hkind] at honPort
    · show BridgePortAttr.type scan.info.bridge_port_type ∈ attr_list
      rw [hkind]
      exact hin
    · exact absurd (hkind.symm.trans hyes) (by intro h; cases h)
    · exact absurd (hkind.symm.trans hyes) (by intro h; cases h)
  | tunnel =>
    simp only
    split
    · exact fun hok _ => (by cases hok)
    split
    · exact fun hok _ => (by cases hok)
    intro hok hin
    cases hok
    refine ⟨⟨fun s32 hs32 => ?_, fun honPort => ?_⟩, hknown, ?_, fun hyes => ?_, fun hyes => ?_⟩
    · exact absurd (hkind.symm.trans hs32) (by intro h; cases h)
    · simp [BridgePortInfo.onPort, hkind] at honPort
    · show BridgePortAttr.type scan.info.bridge_port_type ∈ attr_list
      rw [hkind]
      exact hin
    · exact absurd (hkind.symm.trans hyes) (by intro h; cases h)
    · exact absurd (hkind.symm.trans hyes) (by intro h; cases h)
  | other => exact fun hok _ => (by cases hok)

theorem bridgePortValidateAndFillAttributes_ok
    (hok : (bridgePortValidateAndFillAttributes env attr_list db).1 = .ok info) :
    BridgePortChecked attr_list db info := by
  obtain ⟨scan, type_idx, hfill, htype, hbridge, hattach⟩ :=
    bridgePortValidateAndFillAttributes_filled hok
  refine bridgePortValidateAndFillAttachment_ok ?_ hbridge htype hattach
  refine bridgePortFillFrom_ok _ 0 _ _ ⟨?_, ?_, ?_⟩ (fun _ h => h) hfill
  · exact fun h => (by cases h)
  · exact fun h => absurd rfl h
  · exact fun _ h => (by cases h)

/-! ## Attributes that are set -/

structure SamePort (p q : BridgePortInfo) : Prop where
  id : q.bridge_port_id = p.bridge_port_id
  bridge : q.bridge_id = p.bridge_id
  type : q.bridge_port_type = p.bridge_port_type
  port : q.port_id = p.port_id
  vlan : q.vlan_id = p.vlan_id
  rif : q.rif_id = p.rif_id
  tunnel : q.tunnel_id = p.tunnel_id

namespace SamePort

variable {q r : BridgePortInfo}

theorem refl (p) : SamePort p p := ⟨rfl, rfl, rfl, rfl, rfl, rfl, rfl⟩

theorem update : SamePort p (p.update attr) := by
  cases attr <;> exact ⟨rfl, rfl, rfl, rfl, rfl, rfl, rfl⟩

theorem trans (h : SamePort p q) (k : SamePort q r) : SamePort p r :=
  ⟨k.id.trans h.id, k.bridge.trans h.bridge, k.type.trans h.type, k.port.trans h.port,
    k.vlan.trans h.vlan, k.rif.trans h.rif, k.tunnel.trans h.tunnel⟩

theorem enter (h : SamePort p q) {b : BridgeBooks} :
    (b.enter q).enterMap q = (b.enter p).enterMap p := by
  obtain ⟨h1, h2, h3, h4, h5, h6, h7⟩ := h
  obtain ⟨p1, p2, p3, p4, p5, p6, p7⟩ := p
  obtain ⟨q1, q2, q3, q4, q5, q6, q7⟩ := q
  simp only at h1 h2 h3 h4 h5 h6 h7
  subst h1 h2 h3 h4 h5 h6 h7
  rfl

theorem onPort (h : SamePort p q) : q.onPort = p.onPort := by
  unfold BridgePortInfo.onPort
  rw [h.type]

theorem checked (h : SamePort p q) (hchecked : BridgePortChecked attr_list db p) :
    BridgePortChecked attr_list db q where
  sited :=
    { type := fun s32 => h.type ▸ hchecked.sited.type s32
      port := fun honPort => h.port ▸ hchecked.sited.port (h.onPort ▸ honPort) }
  bridge := h.bridge ▸ hchecked.bridge
  type := h.type ▸ hchecked.type
  def_port htype := h.port ▸ hchecked.def_port (h.type ▸ htype)
  vlan htype := by
    rw [h.port, h.vlan]
    exact hchecked.vlan (h.type ▸ htype)

end SamePort

/-- The new bridge port is at the head of the cache, and everything else is as in `db`. -/
structure PortAdded (db : BridgeDb) (info : BridgePortInfo) (db' : BridgeDb) : Prop where
  default : db'.default_bridge_id = db.default_bridge_id
  bridges : db'.bridges = db.bridges
  books : db'.books = db.books
  ports : ∃ p, SamePort info p ∧ db'.bridge_ports = p :: db.bridge_ports

section Set

variable {info : BridgePortInfo}

theorem PortAdded.kept {db''} (h : PortAdded db info db') (hkept : BridgeKept db' db'')
    (hbooks : db''.books = db'.books) : PortAdded db info db'' :=
  ⟨hkept.default.trans h.default, hkept.bridges.trans h.bridges, hbooks.trans h.books, by
    rw [hkept.ports]
    exact h.ports⟩

theorem bridgePortSetAttribute_added (env) (attr)
    (hfresh : ∀ p ∈ db.bridge_ports, p.bridge_port_id ≠ info.bridge_port_id)
    (h : PortAdded db info db') :
    PortAdded db info (bridgePortSetAttribute env info.bridge_port_id attr db').2 := by
  have hcall := db'.call_npu env (c := .bridgePortSetAttribute info.bridge_port_id attr) trivial
    fun _ => rfl
  unfold bridgePortSetAttribute
  split
  · exact h
  simp only
  generalize db'.call _ _ = x at hcall ⊢
  have hx := h.kept hcall.1 hcall.2
  split
  · exact hx
  obtain ⟨p, hsame, hports⟩ := hx.ports
  refine ⟨hx.default, hx.bridges, hx.books, p.update attr, hsame.trans .update, ?_⟩
  show x.2.bridge_ports.map _ = _
  -- only the head has the id
  rw [hports, List.map_cons, if_pos hsame.id]
  refine congrArg _ ((List.map_congr_left fun q hq => if_neg (hfresh q hq)).trans ?_)
  exact List.map_id' _

theorem bridgePortSetAttributes_added (env) (attr_list)
    (hfresh : ∀ p ∈ db.bridge_ports, p.bridge_port_id ≠ info.bridge_port_id) :
    ∀ x : Status × BridgeDb, PortAdded db info x.2 →
      PortAdded db info (bridgePortSetAttributes env info.bridge_port_id attr_list x).2 := by
  induction attr_list with
  | nil => exact fun _ h => h
  | cons attr attr_list ih =>
    intro x h
    have hset := bridgePortSetAttribute_added env attr hfresh h
    simp only [bridgePortSetAttributes]
    split
    · split
      · exact hset
      · exact ih _ hset
    · exact ih x h

end Set

/-! ## Create -/

section Create

variable {info : BridgePortInfo}

theorem bridgePortCacheWrite_cases (env) (info) (db) :
    ((db.call env (.bridgePortCacheWrite info)).1 ≠ .success ∧
      BridgeKept db (db.call env (.bridgePortCacheWrite info)).2 ∧
      (db.call env (.bridgePortCacheWrite info)).2.books = db.books) ∨
    ((db.call env (.bridgePortCacheWrite info)).1 = .success ∧
      PortAdded db info (db.call env (.bridgePortCacheWrite info)).2) := by
  by_cases hrc : env.outside db.outside_log (.bridgePortCacheWrite info) = .success
  · refine .inr ⟨hrc, ?_⟩
    simp only [BridgeDb.call]
    rw [if_ok hrc]
    exact ⟨rfl, rfl, rfl, info, .refl _, rfl⟩
  refine .inl ⟨hrc, ?_⟩
  simp only [BridgeDb.call]
  rw [if_pos hrc]
  exact ⟨⟨rfl, rfl, rfl⟩, rfl⟩

theorem bridgePortCacheDelete_added (hdoes : env.Does (.bridgePortCacheDelete info.bridge_port_id))
    (hfresh : ∀ p ∈ db.bridge_ports, p.bridge_port_id ≠ info.bridge_port_id)
    (h : PortAdded db info db') :
    BridgeKept db (db'.call env (.bridgePortCacheDelete info.bridge_port_id)).2 ∧
      (db'.call env (.bridgePortCacheDelete info.bridge_port_id)).2.books = db.books := by
  obtain ⟨p, hsame, hports⟩ := h.ports
  simp only [BridgeDb.call]
  rw [if_neg (not_not.mpr (hdoes db'.outside_log))]
  refine ⟨⟨h.default, h.bridges, ?_⟩, h.books⟩
  show db'.bridge_ports.filter _ = db.bridge_ports
  rw [hports, List.filter_cons, if_neg (by simpa using hsame.id)]
  exact List.filter_eq_self.mpr fun q hq => decide_eq_true (hfresh q hq)

theorem BridgeOk.added (h : BridgeOk db) (hsame : SamePort info p)
    (hchecked : BridgePortChecked attr_list db info) (hnull : info.bridge_port_id ≠ .null)
    (hfresh : ∀ p ∈ db.bridge_ports, p.bridge_port_id ≠ info.bridge_port_id)
    (hbridges : db'.bridges = db.bridges) (hports : db'.bridge_ports = p :: db.bridge_ports)
    (hbooks : db'.books = (db.books.enter info).enterMap info) : BridgeOk db' := by
  have hp := hsame.checked hchecked
  refine ⟨?_, ⟨?_, ?_⟩, ?_, ?_⟩
  · rw [hports, hbooks, ← hsame.enter]
    refine h.books.add h.ids ?_ hp.def_port hp.vlan
    rw [hsame.id]
    exact hnull
  · rw [hports, List.map_cons, List.nodup_cons]
    refine ⟨fun hin => ?_, h.ids.nodup⟩
    obtain ⟨q, hq, hid⟩ := List.mem_map.mp hin
    exact hfresh q hq (hid.trans hsame.id)
  · intro q hq
    rw [hports] at hq
    rcases List.mem_cons.mp hq with rfl | hq
    · rw [hsame.id]
      exact hnull
    · exact h.ids.known q hq
  · intro q hq
    rw [hports] at hq
    rcases List.mem_cons.mp hq with rfl | hq
    · exact hp.sited
    · exact h.sited q hq
  · intro q hq
    rw [hports] at hq
    rw [hbridges]
    rcases List.mem_cons.mp hq with rfl | hq
    · exact hp.bridge
    · exact h.known q hq

/-- From the cache write on. -/
theorem bridgePortCreateCached_done (h : BridgeOk db)
    (hsure : ∀ k, (BridgeOp.portCreate attr_list).Exposed db k → env.Does k)
    (hchecked : BridgePortChecked attr_list db info) (hnull : info.bridge_port_id ≠ .null)
    (hfresh : ∀ p ∈ db.bridge_ports, p.bridge_port_id ≠ info.bridge_port_id) (hx : PortAdded db info x.2) :
    BridgeDone db (bridgePortCreateCached env attr_list info x) := by
  have hincr : (AttachCalls.enter info).Sure env info :=
    { unbridge := hsure (.bridgeDecr info.bridge_id) trivial
      default := hsure (.defBridgePortSet info.port_id info.bridge_port_id) trivial
      lag := hsure (.lagMapInsert info.port_id info.bridge_port_id) trivial
      unlag := hsure (.lagMapRemove info.port_id info.bridge_port_id) trivial
      count := fun htype => hsure (.incr info.attachId) (by
        show BridgePortAttr.type .port ∈ attr_list
        rw [← htype]
        exact hchecked.type) }
  have hdelete := hsure (.bridgePortCacheDelete info.bridge_port_id) trivial
  have hlacks : db.books.Lacks info := h.books.lacks hfresh hchecked.def_port
  -- the NPU and the cache take the bridge port back
  have hback {db' : BridgeDb} (rc : Status) (hadd : PortAdded db info db') :
      BridgeDone db (rc, ((db'.call env (.bridgePortRemove info)).2.call env
        (.bridgePortCacheDelete info.bridge_port_id)).2) := by
    have hnpu := db'.call_npu env (c := .bridgePortRemove info) trivial fun _ => rfl
    obtain ⟨hkept, hbooks⟩ := bridgePortCacheDelete_added hdelete hfresh (hadd.kept hnpu.1 hnpu.2)
    exact h.unchanged hkept hbooks
  have ha := bridgePortSetAttributes_added env attr_list hfresh x hx
  unfold bridgePortCreateCached
  simp only
  generalize bridgePortSetAttributes _ _ _ x = a at ha ⊢
  split
  · exact hback a.1 ha
  have hb := bridgePortIncr_cases hchecked.sited hincr a.2 (by rw [ha.books]; exact hlacks)
  generalize bridgePortIncrAttachmentRefCounter _ _ _ = b at hb ⊢
  split
  next hrc => exact hback b.1 (ha.kept hb.kept (hb.failed hrc))
  rename_i hrc
  have hbooks := hb.done (not_not.mp hrc)
  obtain ⟨p, hsame, hports⟩ := ha.ports
  have hc := (bridgePortMapInsert_cases env info b.2).1
  generalize bridgePortMapInsert _ _ _ = c at hc ⊢
  split
  · -- the map has failed: the bridge port is taken out of the books
    rename_i hrc'
    have hd := c.2.call_npu env (c := .bridgePortRemove info) trivial fun _ => rfl
    generalize (c.2.call _ _).2 = d at hd ⊢
    obtain ⟨hkept, hleft⟩ := bridgePortDecr_done hchecked.sited
      (hsure (.bridgeDecr info.bridge_id) trivial)
      (hsure (.defBridgePortSet info.port_id .null) trivial)
      (hsure (.lagMapRemove info.port_id info.bridge_port_id) trivial)
      (hsure (.decr info.attachId) trivial) d
    have hsame_books : (bridgePortDecrAttachmentRefCounter env info d).2.books = a.2.books := by
      rw [hleft, hd.2, hc.failed hrc', hbooks, ha.books]
      exact BridgeBooks.leave_enter hlacks
    have hadd := ha.kept (((hb.kept.trans hc.kept).trans hd.1).trans hkept) hsame_books
    obtain ⟨hkept', hbooks'⟩ := bridgePortCacheDelete_added hdelete hfresh hadd
    exact h.unchanged hkept' hbooks'
  next hrc' =>
    have hkept := hb.kept.trans hc.kept
    refine ⟨h.added hsame hchecked hnull hfresh (hkept.bridges.trans ha.bridges)
      (hkept.ports.trans hports) ?_, fun hfail => absurd (not_not.mp hrc') hfail⟩
    show c.2.books = _
    rw [hc.done (not_not.mp hrc'), hbooks, ha.books]

theorem bridgePortCreate_done (h : BridgeOk db)
    (hsure : ∀ k, (BridgeOp.portCreate attr_list).Exposed db k → env.Does k)
    (hnull : env.npu_bridge_port_id ≠ .null)
    (hfresh : ∀ p ∈ db.bridge_ports, p.bridge_port_id ≠ env.npu_bridge_port_id) :
    BridgeDone db (bridgePortCreate env attr_list db) := by
  unfold bridgePortCreate
  split
  · exact h.unchanged (.refl db) rfl
  have hx := bridgePortValidateAndFillAttributes_kept env attr_list db
  have hchecked (info : BridgePortInfo) :=
    @bridgePortValidateAndFillAttributes_ok db env attr_list info
  simp only
  generalize bridgePortValidateAndFillAttributes _ _ _ = x at hx hchecked ⊢
  split
  · exact h.unchanged hx.1 hx.2
  rename_i info hok
  have hinfo := hchecked info hok
  have ha := x.2.call_npu env (c := .bridgePortCreate info) trivial fun _ => rfl
  have hkept := hx.1.trans ha.1
  have hbooks := ha.2.trans hx.2
  generalize x.2.call _ _ = a at hkept hbooks ⊢
  split
  · exact h.unchanged hkept hbooks
  -- the id that the NPU has handed out is written into the record
  have hnew : BridgePortChecked attr_list db { info with bridge_port_id := env.npu_bridge_port_id } :=
    ⟨⟨hinfo.sited.type, hinfo.sited.port⟩, hinfo.bridge, hinfo.type, hinfo.def_port, hinfo.vlan⟩
  have hid : ({ info with bridge_port_id := env.npu_bridge_port_id } : BridgePortInfo).bridge_port_id =
    env.npu_bridge_port_id := rfl
  generalize ({ info with bridge_port_id := env.npu_bridge_port_id } : BridgePortInfo) = new at hnew hid ⊢
  rw [← hid] at hnull hfresh
  have hb := bridgePortCacheWrite_cases env new a.2
  generalize a.2.call _ _ = b at hb ⊢
  rcases hb with ⟨hfail, hkept', hbooks'⟩ | ⟨hyes, hadd⟩
  · rw [if_pos hfail]
    have hc := b.2.call_npu env (c := .bridgePortRemove new) trivial fun _ => rfl
    exact h.unchanged ((hkept.trans hkept').trans hc.1) ((hc.2.trans hbooks').trans hbooks)
  rw [if_ok hyes]
  obtain ⟨p, hsame, hports⟩ := hadd.ports
  refine bridgePortCreateCached_done h hsure hnew hnull hfresh ⟨?_, ?_, ?_, p, hsame, ?_⟩
  · exact hadd.default.trans hkept.default
  · exact hadd.bridges.trans hkept.bridges
  · exact hadd.books.trans hbooks
  · rw [hports, hkept.ports]

end Create

/-! ## Remove -/

section Remove

variable {info : BridgePortInfo}

theorem bridgePortCacheDelete_cases (env) (bridge_port_id) (db) :
    ((db.call env (.bridgePortCacheDelete bridge_port_id)).1 ≠ .success ∧
      BridgeKept db (db.call env (.bridgePortCacheDelete bridge_port_id)).2 ∧
      (db.call env (.bridgePortCacheDelete bridge_port_id)).2.books = db.books) ∨
    ((db.call env (.bridgePortCacheDelete bridge_port_id)).1 = .success ∧
      (db.call env (.bridgePortCacheDelete bridge_port_id)).2.bridges = db.bridges ∧
      (db.call env (.bridgePortCacheDelete bridge_port_id)).2.bridge_ports =
        (db.bridge_ports.filter fun p => p.bridge_port_id ≠ bridge_port_id) ∧
      (db.call env (.bridgePortCacheDelete bridge_port_id)).2.books = db.books) := by
  by_cases hrc : env.outside db.outside_log (.bridgePortCacheDelete bridge_port_id) = .success
  · refine .inr ⟨hrc, ?_⟩
    simp only [BridgeDb.call]
    rw [if_ok hrc]
    exact ⟨rfl, rfl, rfl⟩
  refine .inl ⟨hrc, ?_⟩
  simp only [BridgeDb.call]
  rw [if_pos hrc]
  exact ⟨⟨rfl, rfl, rfl⟩, rfl⟩

theorem BridgeOk.removed (h : BridgeOk db) (hin : info ∈ db.bridge_ports)
    (hbridges : db'.bridges = db.bridges) (hports : db'.bridge_ports =
      db.bridge_ports.filter fun p => p.bridge_port_id ≠ info.bridge_port_id)
    (hbooks : db'.books = (db.books.leave info).leaveMap info) : BridgeOk db' := by
  have hsub : db'.bridge_ports.Sublist db.bridge_ports := by
    rw [hports]
    exact List.filter_sublist
  refine ⟨?_, ⟨h.ids.nodup.sublist (hsub.map _), fun p hp => h.ids.known p (hsub.subset hp)⟩,
    fun p hp => h.sited p (hsub.subset hp), fun p hp => ?_⟩
  · rw [hports, hbooks]
    exact h.books.remove h.ids hin
  · rw [hbridges]
    exact h.known p (hsub.subset hp)

theorem bridgePortRemove_done (h : BridgeOk db) {bridge_port_id}
    (hsure : ∀ k, (BridgeOp.portRemove bridge_port_id).Exposed db k → env.Does k)
    (hagain : env.npu_again_id bridge_port_id = bridge_port_id) :
    BridgeDone db (bridgePortRemove env bridge_port_id db) := by
  unfold bridgePortRemove
  cases hfind : db.bridgePort bridge_port_id with
  | none => exact h.unchanged (.refl db) rfl
  | some info =>
    have hin : info ∈ db.bridge_ports := List.mem_of_find?_eq_some hfind
    have hid : info.bridge_port_id = bridge_port_id := by simpa using List.find?_some hfind
    subst hid
    have hhas : db.books.Has info := h.books.has hin
    have hsited : info.Sited := h.sited _ hin
    have hleave : (AttachCalls.leave info).Sure env info :=
      { unbridge := hsure (.bridgeIncr info.bridge_id) trivial
        default := hsure (.defBridgePortSet info.port_id .null) trivial
        lag := hsure (.lagMapRemove info.port_id info.bridge_port_id) trivial
        unlag := hsure (.lagMapInsert info.port_id info.bridge_port_id) trivial
        count := fun htype => hsure (.decr info.attachId) ⟨info, hfind, htype⟩ }
    -- counted in again, when the NPU has it again
    have hincr (db' : BridgeDb) := bridgePortIncr_done hsited
      (hsure (.bridgeIncr info.bridge_id) trivial)
      (hsure (.defBridgePortSet info.port_id info.bridge_port_id) trivial)
      (hsure (.lagMapInsert info.port_id info.bridge_port_id) trivial)
      (hsure (.incr info.attachId) trivial) db'
    have hnpu (db' : BridgeDb) := db'.call_npu env (c := .bridgePortCreate info) trivial fun _ => rfl
    simp only
    split
    · exact h.unchanged (.refl db) rfl
    have ha := db.call_npu env (c := .bridgePortRemove info) trivial fun _ => rfl
    generalize db.call _ _ = a at ha ⊢
    split
    · exact h.unchanged ha.1 ha.2
    have hb := bridgePortDecr_cases hsited hleave a.2 (by rw [ha.2]; exact hhas)
    rw [ha.2] at hb
    generalize bridgePortDecrAttachmentRefCounter _ _ _ = b at hb ⊢
    split
    next hrc =>
      have hundo : bridgePortRemoveUndo env info false false b.2 =
          (b.2.call env (.bridgePortCreate info)).2 := by
        simp only [bridgePortRemoveUndo]
        rw [if_ok hagain]
        rfl
      rw [hundo]
      exact h.unchanged ((ha.1.trans hb.kept).trans (hnpu b.2).1)
        (((hnpu b.2).2.trans (hb.failed hrc)).trans ha.2)
    rename_i hrc
    have hbooks := hb.done (not_not.mp hrc)
    have hkept := ha.1.trans hb.kept
    have hc := bridgePortMapRemove_cases env info b.2
    rw [hbooks] at hc
    generalize bridgePortMapRemove _ _ _ = c at hc ⊢
    split
    next hrc' =>
      have hundo : bridgePortRemoveUndo env info true false c.2 =
          (bridgePortIncrAttachmentRefCounter env info (c.2.call env (.bridgePortCreate info)).2).2 := by
        simp only [bridgePortRemoveUndo]
        rw [if_ok hagain]
        rfl
      obtain ⟨hkept', hbooks'⟩ := hincr (c.2.call env (.bridgePortCreate info)).2
      rw [hundo]
      refine h.unchanged (((hkept.trans hc.kept).trans (hnpu c.2).1).trans hkept') ?_
      show (bridgePortIncrAttachmentRefCounter env info _).2.books = db.books
      rw [hbooks', (hnpu c.2).2, hc.failed hrc', hbooks]
      exact BridgeBooks.enter_leave hhas
    rename_i hrc'
    have hbooks2 := hc.done (not_not.mp hrc')
    have hkept2 := hkept.trans hc.kept
    have hd := bridgePortCacheDelete_cases env info.bridge_port_id c.2
    generalize c.2.call _ _ = d at hd ⊢
    rcases hd with ⟨hfail, hkept3, hbooks3⟩ | ⟨hyes, hbridges, hports, hbooks3⟩
    · rw [if_pos hfail]
      have hundo : bridgePortRemoveUndo env info true true d.2 =
          (bridgePortMapInsert env info
            (bridgePortIncrAttachmentRefCounter env info
              (d.2.call env (.bridgePortCreate info)).2).2).2 := by
        simp only [bridgePortRemoveUndo]
        rw [if_ok hagain]
        rfl
      obtain ⟨hkept4, hbooks4⟩ := hincr (d.2.call env (.bridgePortCreate info)).2
      obtain ⟨htried, hdone⟩ := bridgePortMapInsert_cases env _
        _
      have hrc4 := hdone (fun o v id => hsure (.vlanMapInsert o v id) trivial)
        fun t id => hsure (.tunnelMapInsert t id) trivial
      rw [hundo]
      refine h.unchanged
        ((((hkept2.trans hkept3).trans (hnpu d.2).1).trans hkept4).trans htried.kept) ?_
      show (bridgePortMapInsert env info _).2.books = db.books
      rw [htried.done hrc4, hbooks4, (hnpu d.2).2, hbooks3, hbooks2]
      -- first the counters are back, then the map
      rw [BridgeBooks.enter_leaveMap, BridgeBooks.enter_leave hhas]
      exact BridgeBooks.enterMap_leaveMap hhas
    · rw [if_ok hyes]
      refine ⟨h.removed hin (hbridges.trans hkept2.bridges) ?_ (hbooks3.trans hbooks2),
        fun hfail => absurd hyes hfail⟩
      show d.2.bridge_ports = _
      rw [hports, hkept2.ports]

end Remove

/-! ## Runs -/

theorem bridgeStep_ok (h : BridgeOk db) {c} (hok : BridgeOpOk c db) :
    BridgeDone db (bridgeExec c db) := by
  obtain ⟨env, op⟩ := c
  obtain ⟨hon, hsure⟩ := hok
  cases op with
  | create attr_list => exact bridgeCreate_done h hon
  | remove bridge_id => exact bridgeRemove_done h
  | portCreate attr_list => exact bridgePortCreate_done h hsure hon.1 hon.2
  | portRemove bridge_port_id => exact bridgePortRemove_done h hsure hon

theorem BridgeOk.initial {default_bridge_id} : BridgeOk (.initial default_bridge_id) where
  books := .empty
  ids := ⟨List.nodup_nil, fun _ hp => (by cases hp)⟩
  sited _ hp := by cases hp
  known _ hp := by cases hp

/-- **Books of the bridge ports**: after any run whose steps meet the condition, counters and maps are
those of the live bridge ports, and the next call changes none of them when it fails. -/
theorem bridgeExact_of_run {default_bridge_id : Oid} {db : BridgeDb}
    (hrun : Run bridgeStep BridgeOpOk (.initial default_bridge_id) db) :
    BridgeBooksOf db.bridge_ports db.books ∧
    ∀ c, BridgeOpOk c db → (bridgeExec c db).1 ≠ .success →
      (bridgeStep c db).books = db.books ∧ (bridgeStep c db).bridge_ports = db.bridge_ports := by
  have hok : BridgeOk db := by
    refine hrun.induct (P := BridgeOk) (fun c _ h hok => (bridgeStep_ok h hok).ok) ?_
    exact .initial
  exact ⟨hok.books, fun c hc => (bridgeStep_ok hok hc).failed⟩

def lag7SubPort : List BridgePortAttr :=
  [.type .subPort, .portId ⟨.lag, 7⟩, .vlanId 10, .bridgeId ⟨.bridge, 2⟩]

/-- The count of the LAG fails, and nothing is left behind; then it does not. -/
theorem bridgeExact_of_run_lag7 :
    let good := BridgeEnv.good ⟨.bridge, 2⟩ ⟨.bridgePort, 3⟩
    let uncounted := { good with outside := fun _ k => match k with
      | .incr _ => .failure
      | _ => .success }
    let db := bridgeStep ⟨good, .portCreate lag7SubPort⟩
      (bridgeStep ⟨uncounted, .portCreate lag7SubPort⟩
        (bridgeStep ⟨good, .create [.type .bridge1D]⟩ (.initial ⟨.bridge, 1⟩)))
    BridgeBooksOf db.bridge_ports db.books ∧
    ∀ c, BridgeOpOk c db → (bridgeExec c db).1 ≠ .success →
      (bridgeStep c db).books = db.books ∧ (bridgeStep c db).bridge_ports = db.bridge_ports := by
  intro good uncounted db
  refine @bridgeExact_of_run ⟨.bridge, 1⟩ db (.snoc _ (.snoc _ (.snoc _ (.nil _) ?_) ?_) ?_)
  · exact ⟨rfl, fun _ _ _ => rfl⟩
  · refine ⟨⟨by decide, fun p hp => ?_⟩, fun k hk => ?_⟩
    · change p ∈ ([] : List BridgePortInfo) at hp
      cases hp
    · cases k with
      | incr attach_id => exact absurd hk (by show ¬BridgePortAttr.type .port ∈ lag7SubPort; decide)
      | _ => exact fun _ => rfl
  · refine ⟨⟨by decide, fun p hp => ?_⟩, fun _ _ _ => rfl⟩
    change p ∈ ([] : List BridgePortInfo) at hp
    cases hp

/-- The default bridge port of port 5 cannot be set: the bridge stays counted, with no bridge port on it. -/
theorem not_bridgeExact_port5 :
    ¬ ∀ default_bridge_id db, Run bridgeStep BridgeOn (.initial default_bridge_id) db →
      BridgeBooksOf db.bridge_ports db.books := by
  intro h
  let env : BridgeEnv :=
    { BridgeEnv.good ⟨.bridge, 2⟩ ⟨.bridgePort, 3⟩ with outside := fun _ k => match k with
      | .defBridgePortSet _ _ => .failure
      | _ => .success }
  have hrun : Run bridgeStep BridgeOn (.initial ⟨.bridge, 1⟩)
      (bridgeStep ⟨env, .portCreate [.type .port, .portId ⟨.port, 5⟩, .bridgeId ⟨.bridge, 1⟩]⟩
        (.initial ⟨.bridge, 1⟩)) :=
    .snoc _ (.nil _) ⟨by decide, fun p hp => (by cases hp)⟩
  exact absurd ((h _ _ hrun).bridges ⟨.bridge, 1⟩) (by decide)

end OpxSai
