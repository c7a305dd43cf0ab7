import OpxSai.Bridge.BridgeExact
import OpxSai.Bridge.ModuleLocks
import OpxSai.Lib.Overlay

/-!
# The module lock of a bridge port

The create of a bridge port reads the module lock that it runs under off its attribute list, the remove off
the record in the cache.

* `bridgePortLocksAgree_iff` — when both are the lock of what the bridge port is attached to.
-/

namespace OpxSai

variable {env : BridgeEnv} {db : BridgeDb} {info p : BridgePortInfo} {attr_list : List (BridgePortAttr × Oid)}

/-! ## The locks -/

/-- `sai_bridge_port_get_type_from_attr`, over the attributes and their values read as object ids. What
should be the id of a port is compared with `SAI_BRIDGE_PORT_TYPE_PORT`, the number of the type. -/
def bridgePortGetTypeFromAttr :
    List (BridgePortAttr × Oid) → Option BridgePortType × Bool → Option BridgePortType × Bool
  | [], x => x
  | (attr, oid) :: attr_list, x =>
    bridgePortGetTypeFromAttr attr_list (match attr with
      | .type s32 => (some s32, oid.type = .lag)
      | _ => x)

/-- The lock that `sai_bridge_port_create` takes. -/
def bridgePortCreateLock (attr_list : List (BridgePortAttr × Oid)) : Option ModuleLock :=
  let x := bridgePortGetTypeFromAttr attr_list (none, false)
  x.1.bind (bridgeModuleLock x.2)

/-- The lock that `sai_bridge_port_remove` takes. -/
def bridgePortRemoveLock (info : BridgePortInfo) : Option ModuleLock :=
  bridgeModuleLock (info.port_id.type = .lag) info.bridge_port_type

def BridgePortInfo.attachLock (info : BridgePortInfo) : Option ModuleLock :=
  match info.bridge_port_type, info.port_id.type with
  | .port, .lag | .subPort, .lag => some .lag
  | .port, .port | .subPort, .port => some .port
  | .router1Q, _ | .router1D, _ => some .fib
  | .tunnel, _ => some .tunnel
  | _, _ => none

/-- **One lock**: the create ran under the lock of the module of the attachment, and so will the remove. -/
def BridgePortLocksAgree (env : BridgeEnv) (attr_list : List (BridgePortAttr × Oid)) (db : BridgeDb) : Prop :=
  ∃ p, (bridgePortCreate env (attr_list.map Prod.fst) db).2.bridgePort env.npu_bridge_port_id = some p ∧
    bridgePortCreateLock attr_list = p.attachLock ∧ bridgePortRemoveLock p = p.attachLock

/-! ## The last attributes -/

def BridgePortAttr.typeOf : BridgePortAttr → Option BridgePortType
  | .type s32 => some s32
  | _ => none

def BridgePortAttr.portOf : BridgePortAttr → Option Oid
  | .portId oid => some oid
  | _ => none

/-- **When the locks agree.** Of the bridge port of a port or a LAG, the last type reads as a LAG if and only
if the last port id is one. -/
def BridgePortLockFits (attr_list : List (BridgePortAttr × Oid)) : Prop :=
  ∀ s32 value port_id,
    attr_list.reverse.findSome? (fun a => a.1.typeOf.map fun s32 => (s32, a.2)) = some (s32, value) →
    s32 = .port ∨ s32 = .subPort →
    attr_list.reverse.findSome? (fun a => a.1.portOf) = some port_id →
    (value.type = .lag ↔ port_id.type = .lag)

theorem bridgePortGetTypeFromAttr_eq : ∀ (attr_list : List (BridgePortAttr × Oid)) x,
    bridgePortGetTypeFromAttr attr_list x = (attr_list.reverse.findSome? fun a =>
      a.1.typeOf.map fun s32 => (some s32, decide (a.2.type = .lag))).getD x
  | [], _ => rfl
  | (attr, oid) :: attr_list, x => by
    rw [lastSome_cons, ← bridgePortGetTypeFromAttr_eq _]
    cases attr <;> rfl

theorem bridgePortFillAttr_last {idx : Nat} {attr} {scan scan'}
    (hok : bridgePortFillAttr env db idx attr scan = .ok scan') :
    scan'.info.bridge_port_type = attr.typeOf.getD scan.info.bridge_port_type ∧
    scan'.port_id = attr.portOf.getD scan.port_id := by
  cases attr <;> simp only [bridgePortFillAttr] at hok <;> (try split at hok) <;> cases hok <;>
    exact ⟨rfl, rfl⟩

theorem bridgePortFillFrom_last : ∀ (attr_list : List (BridgePortAttr × Oid)) (idx : Nat)
    (scan : BridgePortScan) {scan' : BridgePortScan},
    bridgePortFillFrom env db idx (attr_list.map Prod.fst) scan = .ok scan' →
    scan'.info.bridge_port_type =
      (attr_list.reverse.findSome? fun a => a.1.typeOf).getD scan.info.bridge_port_type ∧
    scan'.port_id = (attr_list.reverse.findSome? fun a => a.1.portOf).getD scan.port_id
  | [], _, _, _, hok => by
    cases hok
    exact ⟨rfl, rfl⟩
  | (attr, oid) :: attr_list, idx, scan, scan', hok => by
    simp only [List.map_cons, bridgePortFillFrom] at hok
    split at hok
    · cases hok
    rename_i mid hmid
    obtain ⟨htype, hport⟩ := bridgePortFillAttr_last hmid
    rw [lastSome_cons, lastSome_cons, ← htype, ← hport]
    exact bridgePortFillFrom_last _ _ _ hok

theorem bridgePortFillFrom_refused {rc} (attr_list) :
    ∀ (idx : Nat) (scan : BridgePortScan), bridgePortFillFrom env db idx attr_list scan = .error rc →
      rc ≠ .success := by
  induction attr_list with
  | nil =>
    intro _ _ hbad
    cases hbad
  | cons attr attr_list ih =>
    intro idx scan hbad
    simp only [bridgePortFillFrom] at hbad
    split at hbad
    next rc' hattr =>
      cases hbad
      cases attr <;> simp only [bridgePortFillAttr] at hattr <;> (try split at hattr) <;> cases hattr <;>
        exact getIndexedRetVal_ne_success (by decide)
    · exact ih _ _ hbad

theorem bridgePortValidateAndFillAttachment_last {scan} :
    match (bridgePortValidateAndFillAttachment env scan db).1 with
    | .ok info => info.bridge_port_type = scan.info.bridge_port_type ∧
        (info.onPort = true → info.port_id = scan.port_id)
    | .error rc => rc ≠ .success := by
  unfold bridgePortValidateAndFillAttachment
  cases htype : scan.info.bridge_port_type with
  | port =>
    simp only
    split_ifs with hnull htype' hcall hdef
    · rintro ⟨⟩
    · rintro ⟨⟩
    · exact hcall
    · rintro ⟨⟩
    · exact ⟨htype, fun _ => rfl⟩
  | subPort =>
    simp only
    split_ifs
    · rintro ⟨⟩
    · rintro ⟨⟩
    · exact ⟨htype, fun _ => rfl⟩
  | router1Q | router1D =>
    simp only
    split_ifs
    · rintro ⟨⟩
    · exact ⟨htype, fun honPort => by simp [BridgePortInfo.onPort, htype] at honPort⟩
  | tunnel =>
    simp only
    split_ifs
    · rintro ⟨⟩
    · rintro ⟨⟩
    · exact ⟨htype, fun honPort => by simp [BridgePortInfo.onPort, htype] at honPort⟩
  | other => rintro ⟨⟩

theorem bridgePortValidateAndFillAttributes_refused {attr_list} {rc}
    (hbad : (bridgePortValidateAndFillAttributes env attr_list db).1 = .error rc) : rc ≠ .success := by
  unfold bridgePortValidateAndFillAttributes at hbad
  split at hbad
  next hfill =>
    cases hbad
    exact bridgePortFillFrom_refused _ _ _ hfill
  rename_i scan hfill
  have hattach := @bridgePortValidateAndFillAttachment_last env db scan
  simp only at hbad
  split at hbad
  · cases hbad
    exact nofun
  split at hbad
  · cases hbad
    exact nofun
  split at hbad
  · cases hbad
    exact getIndexedRetVal_ne_success nofun
  split at hbad
  next rc' hrc =>
    rw [hrc] at hattach
    cases hbad
    split
    · exact getIndexedRetVal_ne_success hattach
    · exact hattach
  · cases hbad

/-- What is filled in has the last type, and the last port id where it is on a port. -/
theorem bridgePortValidateAndFillAttributes_last
    (hok : (bridgePortValidateAndFillAttributes env (attr_list.map Prod.fst) db).1 = .ok info) :
    (attr_list.reverse.findSome? fun a => a.1.typeOf) = some info.bridge_port_type ∧
    (info.onPort = true → (attr_list.reverse.findSome? fun a => a.1.portOf) = some info.port_id) := by
  have hchecked := bridgePortValidateAndFillAttributes_ok hok
  obtain ⟨scan, _, hfill, -, -, hfilled⟩ := bridgePortValidateAndFillAttributes_filled hok
  obtain ⟨htype, hport⟩ := bridgePortFillFrom_last _ 0 _ hfill
  have hattach := @bridgePortValidateAndFillAttachment_last env db scan
  rw [hfilled] at hattach
  obtain ⟨htype', hport'⟩ := hattach
  constructor
  · obtain ⟨a, ha, heq⟩ := List.mem_map.mp hchecked.type
    cases hlast : attr_list.reverse.findSome? fun a => a.1.typeOf with
    | none =>
      have hno := List.findSome?_eq_none_iff.mp hlast a (List.mem_reverse.mpr ha)
      rw [heq] at hno
      cases hno
    | some t =>
      rw [hlast] at htype
      rw [htype', htype]
      rfl
  · intro honPort
    cases hlast : attr_list.reverse.findSome? fun a => a.1.portOf with
    | none =>
      rw [hlast] at hport
      have htypes := hchecked.sited.port honPort
      rw [hport' honPort, hport] at htypes
      rcases htypes with h | h <;> cases h
    | some o =>
      rw [hlast] at hport
      rw [hport' honPort, hport]
      rfl

/-! ## What the create stores -/

variable {attr_list : List BridgePortAttr}

theorem bridgePortSetAttribute_stored (env) {id} (attr)
    (h : ∃ q, db.bridgePort id = some q ∧ SamePort p q) :
    ∃ q, (bridgePortSetAttribute env id attr db).2.bridgePort id = some q ∧ SamePort p q := by
  obtain ⟨q, hq, hsame⟩ := h
  have hports := (db.call_npu env (c := .bridgePortSetAttribute id attr) trivial fun _ => rfl).1.ports
  unfold bridgePortSetAttribute
  rw [hq]
  simp only
  generalize db.call _ _ = x at hports ⊢
  split
  · exact ⟨q, by rw [BridgeDb.bridgePort, hports]; exact hq, hsame⟩
  refine ⟨q.update attr, ?_, hsame.trans .update⟩
  have hid := List.find?_some hq
  show List.find? _ (x.2.bridge_ports.map _) = _
  rw [hports, List.find?_map]
  have hkey : (fun q : BridgePortInfo => decide (q.bridge_port_id = id)) ∘ (fun q =>
      if q.bridge_port_id = id then q.update attr else q) = fun q => decide (q.bridge_port_id = id) := by
    funext q
    simp only [Function.comp_apply]
    split
    · exact congrArg (decide <| · = id) (@SamePort.update attr q).id
    · rfl
  rw [hkey, show db.bridge_ports.find? _ = some q from hq, Option.map_some, if_pos (of_decide_eq_true hid)]

theorem bridgePortSetAttributes_stored (env) {id} (attr_list) :
    ∀ x : Status × BridgeDb, (∃ q, x.2.bridgePort id = some q ∧ SamePort p q) →
      ∃ q, (bridgePortSetAttributes env id attr_list x).2.bridgePort id = some q ∧ SamePort p q := by
  induction attr_list with
  | nil => exact fun _ h => h
  | cons attr attr_list ih =>
    intro x h
    have hset := bridgePortSetAttribute_stored env attr h
    simp only [bridgePortSetAttributes]
    split
    · split
      · exact hset
      · exact ih _ hset
    · exact ih x h

theorem bridgePortCreate_stored (hok : (bridgePortCreate env attr_list db).1 = .success) :
    ∃ info q, (bridgePortValidateAndFillAttributes env attr_list db).1 = .ok info ∧
      (bridgePortCreate env attr_list db).2.bridgePort env.npu_bridge_port_id = some q ∧
      SamePort { info with bridge_port_id := env.npu_bridge_port_id } q := by
  unfold bridgePortCreate at hok ⊢
  split at hok
  · cases hok
  rename_i hpresent
  rw [if_neg hpresent]
  simp only at hok ⊢
  split at hok
  next hrefused => exact absurd hok (bridgePortValidateAndFillAttributes_refused hrefused)
  rename_i info hinfo
  simp only [hinfo]
  split at hok
  next hbad => exact absurd hok hbad
  rename_i hcreated
  rw [if_neg hcreated]
  split at hok
  next hbad => exact absurd hok hbad
  rename_i hcached
  rw [if_neg hcached]
  generalize hnew : ({ info with bridge_port_id := env.npu_bridge_port_id } : BridgePortInfo) = new
    at hok hcached ⊢
  have hid : env.npu_bridge_port_id = new.bridge_port_id := hnew ▸ rfl
  obtain ⟨-, hwritten⟩ := (bridgePortCacheWrite_cases env new _).resolve_left fun hbad => hcached hbad.1
  obtain ⟨q, hsame, hports⟩ := hwritten.ports
  obtain ⟨q, hq, hsame⟩ := bridgePortSetAttributes_stored env attr_list _ ⟨q, by
    rw [BridgeDb.bridgePort, hports]
    exact List.find?_cons_of_pos (decide_eq_true hsame.id), hsame⟩
  simp only [bridgePortCreateCached] at hok ⊢
  split at hok
  next hbad => exact absurd hok hbad
  rename_i hattrs
  rw [if_neg hattrs]
  split at hok
  next hbad => exact absurd hok hbad
  rename_i hincr
  simp only at hok
  rw [if_neg hincr, if_ok hok]
  refine ⟨info, q, rfl, ?_, hnew ▸ hsame⟩
  rw [BridgeDb.bridgePort, (bridgePortMapInsert_cases _ _ _).1.kept.ports,
    (bridgePortIncrAttachmentRefCounter_kept _ _ _).ports, hid]
  exact hq

/-! ## The locks agree -/

variable {attr_list : List (BridgePortAttr × Oid)}

theorem lastType_read {s32} : ∀ {l : List (BridgePortAttr × Oid)},
    (l.findSome? fun a => a.1.typeOf) = some s32 →
    ∃ value, ∀ {α : Type} (f : BridgePortType → Oid → α),
      (l.findSome? fun a => a.1.typeOf.map fun s32 => f s32 a.2) = some (f s32 value)
  | a :: l, h => by
    rw [List.findSome?_cons] at h
    cases ha : a.1.typeOf with
    | none =>
      rw [ha] at h
      obtain ⟨value, hvalue⟩ := lastType_read h
      exact ⟨value, fun f => by rw [List.findSome?_cons, ha]; exact hvalue f⟩
    | some t =>
      rw [ha] at h
      cases h
      exact ⟨a.2, fun f => by rw [List.findSome?_cons, ha]; rfl⟩

/-- **When the create of a bridge port runs under the lock that its remove takes.** -/
theorem bridgePortLocksAgree_iff (hok : (bridgePortCreate env (attr_list.map Prod.fst) db).1 = .success) :
    BridgePortLocksAgree env attr_list db ↔ BridgePortLockFits attr_list := by
  obtain ⟨info, q, hfill, hq, hsame⟩ := bridgePortCreate_stored hok
  have hsited := (bridgePortValidateAndFillAttributes_ok hfill).sited
  obtain ⟨htype, hport⟩ := bridgePortValidateAndFillAttributes_last hfill
  obtain ⟨value, hread⟩ := lastType_read htype
  have hcreate : bridgePortCreateLock attr_list =
      bridgeModuleLock (decide (value.type = .lag)) info.bridge_port_type := by
    rw [bridgePortCreateLock, bridgePortGetTypeFromAttr_eq, hread fun s32 oid => (some s32, decide (oid.type = .lag))]
    rfl
  have hqtype : q.bridge_port_type = info.bridge_port_type := hsame.type
  have hqport : q.port_id = info.port_id := hsame.port
  have hagree : BridgePortLocksAgree env attr_list db ↔
      bridgePortCreateLock attr_list = q.attachLock ∧ bridgePortRemoveLock q = q.attachLock :=
    ⟨fun ⟨p, hp, h⟩ => Option.some.inj (hp.symm.trans hq) ▸ h, fun h => ⟨q, hq, h⟩⟩
  have hfits : BridgePortLockFits attr_list ↔ (info.onPort = true →
      (value.type = .lag ↔ info.port_id.type = .lag)) := by
    constructor
    · intro h honPort
      exact h _ _ _ (hread Prod.mk) (by simpa [BridgePortInfo.onPort] using honPort) (hport honPort)
    · intro h s32 value' port_id hlast honPort hlastPort
      cases (hread Prod.mk).symm.trans hlast
      have honPort' : info.onPort = true := by simpa [BridgePortInfo.onPort] using honPort
      cases (hport honPort').symm.trans hlastPort
      exact h honPort'
  rw [hagree, hfits, hcreate, bridgePortRemoveLock, BridgePortInfo.attachLock, hqtype, hqport]
  cases hkind : info.bridge_port_type with
  | port | subPort =>
    have honPort : info.onPort = true := by simp [BridgePortInfo.onPort, hkind]
    simp only [honPort, true_imp_iff]
    rcases hsited.port honPort with h | h
    · by_cases hvalue : value.type = .lag <;> simp [h, hvalue, bridgeModuleLock]
    · by_cases hvalue : value.type = .lag <;> simp [h, hvalue, bridgeModuleLock]
  | router1Q | router1D | tunnel => simp [BridgePortInfo.onPort, hkind, bridgeModuleLock]
  | other s32 => exact absurd hkind (hsited.type s32)

/-- A bridge port on a LAG; the value of its type, read as an object id, is `value`. -/
def lagBridgePort (value : Oid) : List (BridgePortAttr × Oid) :=
  [(.type .port, value), (.portId ⟨.lag, 7⟩, ⟨.lag, 7⟩), (.bridgeId ⟨.bridge, 1⟩, ⟨.bridge, 1⟩)]

def bridge1QDb : BridgeDb :=
  bridgeStep ⟨.good ⟨.bridge, 1⟩ .null, .create [.type .bridge1Q]⟩ (.initial .null)

theorem bridgePortLocksAgree_iff_lag :
    BridgePortLocksAgree (.good .null ⟨.bridgePort, 3⟩) (lagBridgePort ⟨.lag, 0⟩) bridge1QDb ↔
      BridgePortLockFits (lagBridgePort ⟨.lag, 0⟩) :=
  bridgePortLocksAgree_iff rfl

/-- A bridge port on a LAG is created under the lock of the ports. -/
theorem not_bridgePortLocksAgree :
    ¬ ∀ env attr_list db, (bridgePortCreate env (attr_list.map Prod.fst) db).1 = .success →
      BridgePortLocksAgree env attr_list db := by
  intro h
  obtain ⟨p, hp, hlock, -⟩ := h (.good .null ⟨.bridgePort, 3⟩) (lagBridgePort .null) bridge1QDb rfl
  cases hp
  exact absurd hlock (by decide)

end OpxSai
