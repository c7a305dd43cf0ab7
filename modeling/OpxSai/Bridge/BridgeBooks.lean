import Mathlib.Data.List.Nodup
import OpxSai.Bridge.Bridge

/-!
# Bridge ports — counters and maps

What a bridge port enters into the counters and maps, and what it takes out when it goes, without
the failures between: `enter` and `leave`, with `enterMap` and `leaveMap` for the map of its kind.
The two functions of the source do exactly that, or nothing, as long as no helper fails whose failure
they do not take back. For a bridge port that has passed the checks they are one function, over two
lists of calls; `attach_cases` is about that one.

* `BridgeBooksOf` — counters and maps are those of the live bridge ports.
-/

variable {live : List BridgePortInfo} (info : BridgePortInfo) (env : BridgeEnv) {c : BridgeCall}

namespace OpxSai
variable {bridge_id lag_id id : Oid} {db : BridgeDb}

/-! ## The books -/

/-- Counters and maps are those of the live bridge ports. -/
structure BridgeBooksOf (live : List BridgePortInfo) (b : BridgeBooks) : Prop where
  bridges : ∀ o, b.bridge_refs o = live.countP fun p => p.bridge_id = o
  refs : ∀ o, b.refs o = live.countP fun p => p.attachId = o
  def_port : ∀ p ∈ live, p.bridge_port_type = .port → b.def_port p.port_id = p.bridge_port_id
  def_live : ∀ o, b.def_port o ≠ .null →
    ∃ p ∈ live, p.bridge_port_type = .port ∧ p.port_id = o ∧ p.bridge_port_id = b.def_port o
  lag : ∀ l id, b.lag_map l id = true ↔
    ∃ p ∈ live, p.onPort = true ∧ p.port_id.type = .lag ∧ p.port_id = l ∧ p.bridge_port_id = id
  vlan : ∀ o v id, b.vlan_map o v = some id ↔
    ∃ p ∈ live, p.bridge_port_type = .subPort ∧ p.port_id = o ∧ p.vlan_id = v ∧ p.bridge_port_id = id
  tunnel : ∀ t id, b.tunnel_map t id = true ↔
    ∃ p ∈ live, p.bridge_port_type = .tunnel ∧ p.tunnel_id = t ∧ p.bridge_port_id = id

def BridgePortInfo.OnLag (info : BridgePortInfo) : Prop :=
  info.onPort = true ∧ info.port_id.type = .lag

instance BridgePortInfo.decidableOnLag (info : BridgePortInfo) : Decidable info.OnLag :=
  inferInstanceAs (Decidable (_ ∧ _))

theorem BridgePortInfo.onLag_iff {info : BridgePortInfo} (honPort : info.onPort = true) :
    info.OnLag ↔ info.port_id.type = .lag :=
  ⟨fun h => h.2, fun h => ⟨honPort, h⟩⟩

theorem BridgePortInfo.not_onLag {info : BridgePortInfo} (hport : info.bridge_port_type ≠ .port)
    (hsub : info.bridge_port_type ≠ .subPort) : ¬info.OnLag := by
  intro hon
  have hor : info.bridge_port_type = .port ∨ info.bridge_port_type = .subPort := of_decide_eq_true hon.1
  exact hor.elim hport hsub

namespace BridgeBooks

def enter (info : BridgePortInfo) (b : BridgeBooks) : BridgeBooks :=
  { b with
    bridge_refs := fun o => if o = info.bridge_id then b.bridge_refs o + 1 else b.bridge_refs o
    refs := fun o => if o = info.attachId then b.refs o + 1 else b.refs o
    def_port := fun o =>
      if info.bridge_port_type = .port ∧ o = info.port_id then info.bridge_port_id
      else b.def_port o
    lag_map := fun l p =>
      if info.OnLag ∧ l = info.port_id ∧ p = info.bridge_port_id then true else b.lag_map l p }

def leave (info : BridgePortInfo) (b : BridgeBooks) : BridgeBooks :=
  { b with
    bridge_refs := fun o => if o = info.bridge_id then b.bridge_refs o - 1 else b.bridge_refs o
    refs := fun o => if o = info.attachId then b.refs o - 1 else b.refs o
    def_port := fun o =>
      if info.bridge_port_type = .port ∧ o = info.port_id then .null else b.def_port o
    lag_map := fun l p =>
      if info.OnLag ∧ l = info.port_id ∧ p = info.bridge_port_id then false else b.lag_map l p }

def enterMap (info : BridgePortInfo) (b : BridgeBooks) : BridgeBooks :=
  { b with
    vlan_map := fun o v =>
      if info.bridge_port_type = .subPort ∧ o = info.port_id ∧ v = info.vlan_id then
        some info.bridge_port_id
      else b.vlan_map o v
    tunnel_map := fun t p =>
      if info.bridge_port_type = .tunnel ∧ t = info.tunnel_id ∧ p = info.bridge_port_id then true
      else b.tunnel_map t p }

def leaveMap (info : BridgePortInfo) (b : BridgeBooks) : BridgeBooks :=
  { b with
    vlan_map := fun o v =>
      if info.bridge_port_type = .subPort ∧ o = info.port_id ∧ v = info.vlan_id then none
      else b.vlan_map o v
    tunnel_map := fun t p =>
      if info.bridge_port_type = .tunnel ∧ t = info.tunnel_id ∧ p = info.bridge_port_id then false
      else b.tunnel_map t p }

theorem ext_of {b c : BridgeBooks} (hb : ∀ o, b.bridge_refs o = c.bridge_refs o)
    (hr : ∀ o, b.refs o = c.refs o) (hd : ∀ o, b.def_port o = c.def_port o)
    (hl : ∀ l p, b.lag_map l p = c.lag_map l p) (hv : ∀ o v, b.vlan_map o v = c.vlan_map o v)
    (ht : ∀ t p, b.tunnel_map t p = c.tunnel_map t p) : b = c := by
  obtain ⟨b1, b2, b3, b4, b5, b6⟩ := b
  obtain ⟨c1, c2, c3, c4, c5, c6⟩ := c
  simp only at hb hr hd hl hv ht
  rw [show b1 = c1 from funext hb, show b2 = c2 from funext hr, show b3 = c3 from funext hd,
    show b4 = c4 from funext fun l => funext (hl l), show b5 = c5 from funext fun o => funext (hv o),
    show b6 = c6 from funext fun t => funext (ht t)]

/-- The books in which a bridge port is not entered. -/
structure Lacks (info : BridgePortInfo) (b : BridgeBooks) : Prop where
  def_port : info.bridge_port_type = .port → b.def_port info.port_id = .null
  lag : info.OnLag → b.lag_map info.port_id info.bridge_port_id = false

structure Has (info : BridgePortInfo) (b : BridgeBooks) : Prop where
  bridge : 0 < b.bridge_refs info.bridge_id
  refs : 0 < b.refs info.attachId
  def_port : info.bridge_port_type = .port → b.def_port info.port_id = info.bridge_port_id
  lag : info.OnLag → b.lag_map info.port_id info.bridge_port_id = true
  vlan : info.bridge_port_type = .subPort →
    b.vlan_map info.port_id info.vlan_id = some info.bridge_port_id
  tunnel : info.bridge_port_type = .tunnel →
    b.tunnel_map info.tunnel_id info.bridge_port_id = true

variable {info : BridgePortInfo} {b : BridgeBooks}

theorem leave_enter (h : b.Lacks info) : (b.enter info).leave info = b := by
  refine ext_of (fun o => ?_) (fun o => ?_) (fun o => ?_) (fun l p => ?_) (fun _ _ => rfl) fun _ _ => rfl
  · simp only [leave, enter]
    split <;> omega
  · simp only [leave, enter]
    split <;> omega
  · simp only [leave, enter]
    split
    next hyes => rw [hyes.2, h.def_port hyes.1]
    · rfl
  · simp only [leave, enter]
    split
    next hyes => rw [hyes.2.1, hyes.2.2, h.lag hyes.1]
    · rfl

theorem enter_leave (h : b.Has info) : (b.leave info).enter info = b := by
  have hbridge := h.bridge
  have hrefs := h.refs
  refine ext_of (fun o => ?_) (fun o => ?_) (fun o => ?_) (fun l p => ?_) (fun _ _ => rfl) fun _ _ => rfl
  · simp only [leave, enter]
    split
    next ho =>
      subst ho
      omega
    · rfl
  · simp only [leave, enter]
    split
    next ho =>
      subst ho
      omega
    · rfl
  · simp only [leave, enter]
    split
    next hyes => rw [hyes.2, h.def_port hyes.1]
    · rfl
  · simp only [leave, enter]
    split
    next hyes => rw [hyes.2.1, hyes.2.2, h.lag hyes.1]
    · rfl

theorem enterMap_leaveMap (h : b.Has info) : (b.leaveMap info).enterMap info = b := by
  refine ext_of (fun _ => rfl) (fun _ => rfl) (fun _ => rfl) (fun _ _ => rfl) (fun o v => ?_)
    fun t p => ?_
  · simp only [leaveMap, enterMap]
    split
    next hyes => rw [hyes.2.1, hyes.2.2, h.vlan hyes.1]
    · rfl
  · simp only [leaveMap, enterMap]
    split
    next hyes => rw [hyes.2.1, hyes.2.2, h.tunnel hyes.1]
    · rfl

theorem enter_leaveMap (info : BridgePortInfo) (b : BridgeBooks) :
    (b.leaveMap info).enter info = (b.enter info).leaveMap info := rfl

end BridgeBooks

/-! ## The helpers -/

structure BridgeKept (db db' : BridgeDb) : Prop where
  default : db'.default_bridge_id = db.default_bridge_id
  bridges : db'.bridges = db.bridges
  ports : db'.bridge_ports = db.bridge_ports

theorem BridgeKept.refl (db) : BridgeKept db db := ⟨rfl, rfl, rfl⟩

theorem BridgeKept.trans {db' db''} (h : BridgeKept db db') (k : BridgeKept db' db'') :
    BridgeKept db db'' :=
  ⟨k.default.trans h.default, k.bridges.trans h.bridges, k.ports.trans h.ports⟩

def BridgeCall.KeepsCaches : BridgeCall → Prop
  | .bridgeCacheWrite _ _ | .bridgeCacheDelete _ | .bridgePortCacheWrite _
  | .bridgePortCacheDelete _ => False
  | _ => True

theorem BridgeDb.call_cases (hc : c.KeepsCaches) (db) : BridgeKept db (db.call env c).2 ∧
    (((db.call env c).1 ≠ .success ∧ (db.call env c).2.books = db.books) ∨
      ((db.call env c).1 = .success ∧ (db.call env c).2.books = db.books.write c)) := by
  by_cases hrc : env.outside db.outside_log c = .success
  · simp only [BridgeDb.call]
    rw [if_ok hrc]
    cases c <;> first
      | exact hc.elim
      | exact ⟨⟨rfl, rfl, rfl⟩, .inr ⟨hrc, rfl⟩⟩
  simp only [BridgeDb.call]
  rw [if_pos hrc]
  exact ⟨⟨rfl, rfl, rfl⟩, .inl ⟨hrc, rfl⟩⟩

theorem BridgeKept.call (hc : c.KeepsCaches) : BridgeKept db (db.call env c).2 :=
  (db.call_cases env hc).1

theorem bridgePortIncrAttachmentRefCounter_kept (info) (db) :
    BridgeKept db (bridgePortIncrAttachmentRefCounter env info db).2 := by
  have hport : ∀ db, BridgeKept db (bridgePortIncrPort env info db).1.2 := by
    intro db
    simp only [bridgePortIncrPort]
    split_ifs
    · exact .call env (by trivial)
    · exact .call env (by trivial)
    · exact ((BridgeKept.call env (by trivial)).trans (BridgeKept.call env (by trivial))).trans (BridgeKept.call env (by trivial))
    · exact (BridgeKept.call env (by trivial)).trans (BridgeKept.call env (by trivial))
    · exact .refl db
  have hattach : ∀ db, BridgeKept db (bridgePortIncrAttachment env info db).1.2 := by
    intro db
    simp only [bridgePortIncrAttachment]
    split
    · split_ifs
      · exact .refl db
      · exact .call env (by trivial)
      · exact (BridgeKept.call env (by trivial)).trans (hport _)
    · exact hport db
    · exact .call env (by trivial)
    · exact .call env (by trivial)
    · exact .call env (by trivial)
    · exact .refl db
  simp only [bridgePortIncrAttachmentRefCounter]
  split_ifs
  · exact .call env (by trivial)
  · exact (BridgeKept.call env (by trivial)).trans (hattach _)
  · exact ((BridgeKept.call env (by trivial)).trans (hattach _)).trans (BridgeKept.call env (by trivial))
  · exact (BridgeKept.call env (by trivial)).trans (hattach _)

theorem bridgePortDecrAttachmentRefCounter_kept (info) (db) :
    BridgeKept db (bridgePortDecrAttachmentRefCounter env info db).2 := by
  have hport : ∀ db, BridgeKept db (bridgePortDecrPort env info db).1.2 := by
    intro db
    simp only [bridgePortDecrPort]
    split_ifs
    · exact .call env (by trivial)
    · exact .call env (by trivial)
    · exact ((BridgeKept.call env (by trivial)).trans (BridgeKept.call env (by trivial))).trans (BridgeKept.call env (by trivial))
    · exact (BridgeKept.call env (by trivial)).trans (BridgeKept.call env (by trivial))
    · exact .refl db
  have hattach : ∀ db, BridgeKept db (bridgePortDecrAttachment env info db).1.2 := by
    intro db
    simp only [bridgePortDecrAttachment]
    split
    · split_ifs
      · exact hport db
      · exact .call env (by trivial)
      · exact (BridgeKept.call env (by trivial)).trans (hport _)
    · exact hport db
    · exact .call env (by trivial)
    · exact .call env (by trivial)
    · exact .call env (by trivial)
    · exact .refl db
  simp only [bridgePortDecrAttachmentRefCounter]
  split_ifs
  · exact .call env (by trivial)
  · exact (BridgeKept.call env (by trivial)).trans (hattach _)
  · exact ((BridgeKept.call env (by trivial)).trans (hattach _)).trans (BridgeKept.call env (by trivial))
  · exact (BridgeKept.call env (by trivial)).trans (hattach _)

theorem BridgeDb.call_done {env} {c} (hc : c.KeepsCaches)
    (hdone : ∀ log, env.outside log c = .success) :
    BridgeKept db (db.call env c).2 ∧ (db.call env c).1 = .success ∧
      (db.call env c).2.books = db.books.write c := by
  obtain ⟨hkept, ⟨hfail, -⟩ | hyes⟩ := db.call_cases env hc
  · exact absurd (hdone db.outside_log) hfail
  · exact ⟨hkept, hyes⟩

theorem BridgeDb.call_npu (hc : c.KeepsCaches)
    (hnone : ∀ b : BridgeBooks, b.write c = b) (db) :
    BridgeKept db (db.call env c).2 ∧ (db.call env c).2.books = db.books := by
  obtain ⟨hkept, ⟨-, hbooks⟩ | ⟨-, hbooks⟩⟩ := db.call_cases env hc
  · exact ⟨hkept, hbooks⟩
  · exact ⟨hkept, hbooks.trans (hnone _)⟩

/-- The helper does not fail, whatever was called before. -/
def BridgeEnv.Does (c : BridgeCall) : Prop := ∀ log, env.outside log c = .success

theorem bridgePortValidateAndFillAttributes_filled {env} {info}
    {attr_list}
    (hok : (bridgePortValidateAndFillAttributes env attr_list db).1 = .ok info) :
    ∃ scan type_idx, bridgePortFillFrom env db 0 attr_list
        ⟨bridgePortInfoInit, none, false, .null, bridgeVlanUndef, .null, .null⟩ = .ok scan ∧
      scan.type_idx = some type_idx ∧ scan.bridge = true ∧
      (bridgePortValidateAndFillAttachment env scan db).1 = .ok info := by
  unfold bridgePortValidateAndFillAttributes at hok
  split at hok
  · cases hok
  rename_i scan hfill
  split at hok
  · cases hok
  rename_i type_idx htype
  split at hok
  · cases hok
  rename_i hbridge
  split at hok
  · cases hok
  simp only at hok
  split at hok
  · cases hok
  rename_i hattach
  cases hok
  exact ⟨scan, type_idx, hfill, htype, by simpa using hbridge, hattach⟩

/-! ## Attach and detach as one function -/

/-- What the checks leave: the type is one of the five, and a bridge port on a port has one. -/
structure BridgePortInfo.Sited (info : BridgePortInfo) : Prop where
  type : ∀ s32, info.bridge_port_type ≠ .other s32
  port : info.onPort = true → info.port_id.type = .port ∨ info.port_id.type = .lag

variable {Q : BridgePortInfo → Prop}

/-- The calls of one direction, and those that take two of them back. -/
structure AttachCalls where
  bridge : BridgeCall
  unbridge : BridgeCall
  default : BridgeCall
  lag : BridgeCall
  unlag : BridgeCall
  count : BridgeCall

def AttachCalls.enter (info : BridgePortInfo) : AttachCalls where
  bridge := .bridgeIncr info.bridge_id
  unbridge := .bridgeDecr info.bridge_id
  default := .defBridgePortSet info.port_id info.bridge_port_id
  lag := .lagMapInsert info.port_id info.bridge_port_id
  unlag := .lagMapRemove info.port_id info.bridge_port_id
  count := .incr info.attachId

def AttachCalls.leave (info : BridgePortInfo) : AttachCalls where
  bridge := .bridgeDecr info.bridge_id
  unbridge := .bridgeIncr info.bridge_id
  default := .defBridgePortSet info.port_id .null
  lag := .lagMapRemove info.port_id info.bridge_port_id
  unlag := .lagMapInsert info.port_id info.bridge_port_id
  count := .decr info.attachId

structure AttachCalls.KeepsCaches (k : AttachCalls) : Prop where
  bridge : k.bridge.KeepsCaches
  unbridge : k.unbridge.KeepsCaches
  default : k.default.KeepsCaches
  lag : k.lag.KeepsCaches
  unlag : k.unlag.KeepsCaches
  count : k.count.KeepsCaches

theorem AttachCalls.enter_keepsCaches : (enter info).KeepsCaches :=
  ⟨trivial, trivial, trivial, trivial, trivial, trivial⟩

theorem AttachCalls.leave_keepsCaches : (leave info).KeepsCaches :=
  ⟨trivial, trivial, trivial, trivial, trivial, trivial⟩

/-- `bridgePortIncrPort` and `bridgePortDecrPort`. -/
def attachPort (info : BridgePortInfo) (k : AttachCalls) (db : BridgeDb) :
    (Status × BridgeDb) × Bool :=
  if info.port_id.type = .lag then
    let a := db.call env k.lag
    if a.1 ≠ .success then (a, true)
    else
      let b := a.2.call env k.count
      ((b.1, if b.1 ≠ .success then (b.2.call env k.unlag).2 else b.2), false)
  else (db.call env k.count, false)

/-- `bridgePortIncrAttachment` and `bridgePortDecrAttachment`. -/
def attachSwitch (info : BridgePortInfo) (k : AttachCalls) (db : BridgeDb) :
    (Status × BridgeDb) × Bool :=
  if info.bridge_port_type = .port then
    let a := db.call env k.default
    if a.1 ≠ .success then (a, true) else attachPort env info k a.2
  else if info.bridge_port_type = .subPort then attachPort env info k db
  else (db.call env k.count, false)

/-- `bridgePortIncrAttachmentRefCounter` and `bridgePortDecrAttachmentRefCounter`. -/
def attach (info : BridgePortInfo) (k : AttachCalls) (db : BridgeDb) : Status × BridgeDb :=
  let a := db.call env k.bridge
  if a.1 ≠ .success then a
  else
    let b := attachSwitch env info k a.2
    if b.2 then b.1
    else (b.1.1, if b.1.1 ≠ .success then (b.1.2.call env k.unbridge).2 else b.1.2)

def AttachCalls.post (info : BridgePortInfo) (k : AttachCalls) (b : BridgeBooks) : BridgeBooks :=
  let b := b.write k.bridge
  let b := if info.bridge_port_type = .port then b.write k.default else b
  let b := if info.OnLag then b.write k.lag else b
  b.write k.count

section AttachEq

variable {env : BridgeEnv} {info : BridgePortInfo}

theorem BridgePortInfo.attachId_of_onPort (h : info.onPort = true) : info.attachId = info.port_id := by
  have hor : info.bridge_port_type = .port ∨ info.bridge_port_type = .subPort := of_decide_eq_true h
  unfold BridgePortInfo.attachId
  rcases hor with htype | htype <;> rw [htype]

theorem BridgePortInfo.Sited.not_other (hsited : info.Sited) (honPort : info.onPort = true) :
    ¬(info.port_id.type ≠ .port ∧ info.port_id.type ≠ .lag) := by
  rintro ⟨hport, hlag⟩
  rcases hsited.port honPort with htype | htype
  · exact hport htype
  · exact hlag htype

variable (hsited : info.Sited)

include hsited

theorem attachPort_eq (honPort : info.onPort = true) (db) :
    bridgePortIncrPort env info db = attachPort env info (.enter info) db ∧
    bridgePortDecrPort env info db = attachPort env info (.leave info) db := by
  have hattach : info.attachId = info.port_id := BridgePortInfo.attachId_of_onPort honPort
  unfold bridgePortIncrPort bridgePortDecrPort attachPort AttachCalls.enter AttachCalls.leave
  rw [hattach]
  rcases hsited.port honPort with htype | htype
  · simp [htype]
  · simp [htype]

theorem attachSwitch_eq (db) :
    bridgePortIncrAttachment env info db = attachSwitch env info (.enter info) db ∧
    bridgePortDecrAttachment env info db = attachSwitch env info (.leave info) db := by
  unfold bridgePortIncrAttachment bridgePortDecrAttachment attachSwitch
  cases htype : info.bridge_port_type with
  | port =>
    have honPort : info.onPort = true := by simp [BridgePortInfo.onPort, htype]
    simp only
    rw [if_neg (hsited.not_other honPort), if_neg (hsited.not_other honPort), if_pos trivial,
      if_pos trivial]
    simp only [attachPort_eq hsited honPort]
    exact ⟨rfl, rfl⟩
  | subPort =>
    have honPort : info.onPort = true := by simp [BridgePortInfo.onPort, htype]
    simp only [attachPort_eq hsited honPort]
    exact ⟨rfl, rfl⟩
  | router1Q | router1D | tunnel =>
    simp only [AttachCalls.enter, AttachCalls.leave, BridgePortInfo.attachId, htype]
    exact ⟨rfl, rfl⟩
  | other s32 => exact absurd htype (hsited.type s32)

theorem attach_enter (db) :
    bridgePortIncrAttachmentRefCounter env info db = attach env info (.enter info) db := by
  unfold bridgePortIncrAttachmentRefCounter attach
  simp only [attachSwitch_eq hsited]
  rfl

theorem attach_leave (db) :
    bridgePortDecrAttachmentRefCounter env info db = attach env info (.leave info) db := by
  unfold bridgePortDecrAttachmentRefCounter attach
  simp only [attachSwitch_eq hsited]
  rfl

end AttachEq

/-! ## All or nothing -/

/-- The helpers whose failure is not taken back do not fail. -/
structure AttachCalls.Sure (env : BridgeEnv) (info : BridgePortInfo) (k : AttachCalls) : Prop where
  unbridge : env.Does k.unbridge
  default : env.Does k.default
  lag : env.Does k.lag
  unlag : env.Does k.unlag
  count : info.bridge_port_type = .port → env.Does k.count

structure BridgeTried (db : BridgeDb) (post : BridgeBooks) (x : Status × BridgeDb) : Prop where
  kept : BridgeKept db x.2
  books : (x.1 ≠ .success ∧ x.2.books = db.books) ∨ (x.1 = .success ∧ x.2.books = post)

namespace BridgeTried

variable {post : BridgeBooks} {x : Status × BridgeDb}

theorem failed (h : BridgeTried db post x) (hrc : x.1 ≠ .success) : x.2.books = db.books := by
  obtain ⟨-, hbooks⟩ | ⟨hyes, -⟩ := h.books
  · exact hbooks
  · exact absurd hyes hrc

theorem done (h : BridgeTried db post x) (hrc : x.1 = .success) : x.2.books = post := by
  obtain ⟨hno, -⟩ | ⟨-, hbooks⟩ := h.books
  · exact absurd hrc hno
  · exact hbooks

end BridgeTried

section Attach

variable {env : BridgeEnv} {info : BridgePortInfo} {k : AttachCalls} (hk : k.KeepsCaches)

include hk

theorem attachPort_cases (hlag : env.Does k.lag) (db)
    (hundo : ¬env.Does k.count → env.Does k.unlag ∧
      (info.port_id.type = .lag → (db.books.write k.lag).write k.unlag = db.books)) :
    (attachPort env info k db).2 = false ∧
    BridgeTried db
      ((if info.port_id.type = .lag then db.books.write k.lag else db.books).write k.count)
      (attachPort env info k db).1 ∧
    (env.Does k.count → (attachPort env info k db).1.1 = .success) := by
  by_cases htype : info.port_id.type = .lag
  · obtain ⟨hkept, hrc, hbooks⟩ := BridgeDb.call_done hk.lag hlag
    obtain ⟨hkept', hcase⟩ := (db.call env k.lag).2.call_cases env hk.count
    have hdoes : env.Does k.count → ((db.call env k.lag).2.call env k.count).1 = .success :=
      fun h => h _
    simp only [attachPort]
    rw [if_pos htype, if_pos htype, if_ok hrc, ← hbooks]
    generalize (db.call env k.lag).2.call _ _ = b at hkept' hcase hdoes ⊢
    refine ⟨rfl, ?_, hdoes⟩
    dsimp only
    rcases hcase with ⟨hfail, hsame⟩ | ⟨hyes, hwrote⟩
    · -- the count has failed: the map is written back
      obtain ⟨hunlag, hback⟩ := hundo fun h => hfail (hdoes h)
      obtain ⟨hkept2, -, hbooks2⟩ := BridgeDb.call_done hk.unlag hunlag
      rw [if_pos hfail]
      refine ⟨(hkept.trans hkept').trans hkept2, .inl ⟨hfail, ?_⟩⟩
      rw [hbooks2, hsame, hbooks]
      exact hback htype
    · rw [if_ok hyes]
      exact ⟨hkept.trans hkept', .inr ⟨hyes, hwrote⟩⟩
  · obtain ⟨hkept, hcase⟩ := db.call_cases env hk.count
    simp only [attachPort]
    rw [if_neg htype, if_neg htype]
    exact ⟨rfl, ⟨hkept, hcase⟩, fun h => h _⟩

/-- The switch. What may fail in it is the count, and not for the type PORT. -/
theorem attachSwitch_cases (hdefault : env.Does k.default) (hlag : env.Does k.lag)
    (hundo : ¬env.Does k.count → info.bridge_port_type ≠ .port ∧ env.Does k.unlag ∧
      (info.OnLag → (db.books.write k.lag).write k.unlag = db.books)) :
    (attachSwitch env info k db).2 = false ∧
    BridgeTried db
      (let b := if info.bridge_port_type = .port then db.books.write k.default else db.books
       (if info.OnLag then b.write k.lag else b).write k.count)
      (attachSwitch env info k db).1 ∧
    (env.Does k.count → (attachSwitch env info k db).1.1 = .success) := by
  by_cases hport : info.bridge_port_type = .port
  · have hcount : env.Does k.count := by_contra fun hno => (hundo hno).1 hport
    have honLag := @BridgePortInfo.onLag_iff info (by simp [BridgePortInfo.onPort, hport])
    obtain ⟨hkept, hrc, hbooks⟩ := BridgeDb.call_done hk.default hdefault
    obtain ⟨hearly, htried, hdone⟩ := @attachPort_cases env info k hk hlag
      (db.call env k.default).2 fun hno => absurd hcount hno
    simp only [attachSwitch]
    rw [if_pos hport, if_ok hrc]
    simp only [if_pos hport, honLag, ← hbooks]
    exact ⟨hearly, ⟨hkept.trans htried.kept, .inr ⟨hdone hcount, htried.done (hdone hcount)⟩⟩, hdone⟩
  · by_cases hsub : info.bridge_port_type = .subPort
    · have honPort : info.onPort = true := by simp [BridgePortInfo.onPort, hsub]
      simp only [attachSwitch]
      rw [if_neg hport, if_pos hsub]
      simp only [if_neg hport, BridgePortInfo.onLag_iff honPort]
      exact attachPort_cases hk hlag db fun hno =>
        ⟨(hundo hno).2.1, fun htype => (hundo hno).2.2 ⟨honPort, htype⟩⟩
    obtain ⟨hkept, hcase⟩ := db.call_cases env hk.count
    simp only [attachSwitch]
    rw [if_neg hport, if_neg hsub]
    simp only [if_neg hport, if_neg (BridgePortInfo.not_onLag hport hsub)]
    exact ⟨trivial, ⟨hkept, hcase⟩, fun h => h _⟩

/-- **All or nothing**: the bridge is counted back when the switch fails. -/
theorem attach_cases (hdefault : env.Does k.default) (hlag : env.Does k.lag) (db)
    (hundo : ¬env.Does k.count → info.bridge_port_type ≠ .port ∧ env.Does k.unbridge ∧
      env.Does k.unlag ∧ (db.books.write k.bridge).write k.unbridge = db.books ∧
      (info.OnLag →
        ((db.books.write k.bridge).write k.lag).write k.unlag = db.books.write k.bridge)) :
    BridgeTried db (k.post info db.books) (attach env info k db) ∧
    (env.Does k.bridge → env.Does k.count → (attach env info k db).1 = .success) := by
  obtain ⟨hkept, ⟨hfail, hsame⟩ | ⟨hyes, hwrote⟩⟩ := db.call_cases env hk.bridge
  · simp only [attach]
    rw [if_pos hfail]
    exact ⟨⟨hkept, .inl ⟨hfail, hsame⟩⟩, fun h _ => h _⟩
  obtain ⟨hearly, htried, hdone⟩ := attachSwitch_cases hk hdefault hlag
    fun hno => ⟨(hundo hno).1, (hundo hno).2.2.1, by rw [hwrote]; exact (hundo hno).2.2.2.2⟩
  rw [hwrote] at htried
  simp only [attach]
  rw [if_ok hyes, if_neg (by simp [hearly])]
  generalize (attachSwitch _ _ k _).1 = b at htried hdone ⊢
  refine ⟨?_, fun _ => hdone⟩
  by_cases hrc : b.1 = .success
  · rw [if_ok hrc]
    exact ⟨hkept.trans htried.kept, .inr ⟨hrc, htried.done hrc⟩⟩
  obtain ⟨-, hunbridge, -, hback, -⟩ := hundo fun h => hrc (hdone h)
  obtain ⟨hkept2, -, hbooks2⟩ := BridgeDb.call_done hk.unbridge hunbridge
  rw [if_pos hrc]
  refine ⟨(hkept.trans htried.kept).trans hkept2, .inl ⟨hrc, ?_⟩⟩
  rw [hbooks2, htried.failed hrc, hwrote]
  exact hback

theorem attach_done (hbridge : env.Does k.bridge) (hdefault : env.Does k.default)
    (hlag : env.Does k.lag) (hcount : env.Does k.count) :
    BridgeKept db (attach env info k db).2 ∧ (attach env info k db).2.books = k.post info db.books := by
  obtain ⟨htried, hdone⟩ := @attach_cases env info k hk hdefault hlag db fun hno => absurd hcount hno
  exact ⟨htried.kept, htried.done (hdone hbridge hcount)⟩

omit hk in
theorem AttachCalls.Sure.attach_cases (hsure : k.Sure env info) (hk : k.KeepsCaches)
    (hunbridge : (db.books.write k.bridge).write k.unbridge = db.books) (hunlag : info.OnLag →
      ((db.books.write k.bridge).write k.lag).write k.unlag = db.books.write k.bridge) :
    BridgeTried db (k.post info db.books) (attach env info k db) :=
  (OpxSai.attach_cases hk hsure.default hsure.lag db fun hno =>
    ⟨fun hport => hno (hsure.count hport), hsure.unbridge, hsure.unlag, hunbridge, hunlag⟩).1

end Attach

namespace BridgeBooks

attribute [local simp] write

theorem post_enter (b) : (AttachCalls.enter info).post info b = b.enter info := by
  simp only [AttachCalls.post, AttachCalls.enter, enter]
  by_cases hport : info.bridge_port_type = .port <;> by_cases hlag : info.OnLag <;>
    simp [write, hport, hlag]

theorem post_leave (b) : (AttachCalls.leave info).post info b = b.leave info := by
  simp only [AttachCalls.post, AttachCalls.leave, leave]
  by_cases hport : info.bridge_port_type = .port <;> by_cases hlag : info.OnLag <;>
    simp [write, hport, hlag]

variable {b : BridgeBooks}

theorem bridgeIncr_bridgeDecr {b : BridgeBooks} :
    (b.write (.bridgeIncr bridge_id)).write (.bridgeDecr bridge_id) = b := by
  refine ext_of (fun o => ?_) (fun _ => rfl) (fun _ => rfl) (fun _ _ => rfl) (fun _ _ => rfl) fun _ _ => rfl
  simp only [write]
  split <;> omega

theorem bridgeDecr_bridgeIncr (hpos : 0 < b.bridge_refs bridge_id) :
    (b.write (.bridgeDecr bridge_id)).write (.bridgeIncr bridge_id) = b := by
  refine ext_of (fun o => ?_) (fun _ => rfl) (fun _ => rfl) (fun _ _ => rfl) (fun _ _ => rfl) fun _ _ => rfl
  simp only [write]
  split
  next ho =>
    rw [ho]
    omega
  · rfl

theorem lagMapInsert_lagMapRemove (hnot : b.lag_map lag_id id = false) :
    (b.write (.lagMapInsert lag_id id)).write (.lagMapRemove lag_id id) = b := by
  refine ext_of (fun _ => rfl) (fun _ => rfl) (fun _ => rfl) (fun l p => ?_) (fun _ _ => rfl) fun _ _ => rfl
  simp only [write]
  split
  next hyes => rw [hyes.1, hyes.2, hnot]
  · rfl

theorem lagMapRemove_lagMapInsert (hin : b.lag_map lag_id id = true) :
    (b.write (.lagMapRemove lag_id id)).write (.lagMapInsert lag_id id) = b := by
  refine ext_of (fun _ => rfl) (fun _ => rfl) (fun _ => rfl) (fun l p => ?_) (fun _ _ => rfl) fun _ _ => rfl
  simp only [write]
  split
  next hyes => rw [hyes.1, hyes.2, hin]
  · rfl

end BridgeBooks

section Counters

variable {env : BridgeEnv} {info : BridgePortInfo}

/-- `bridgePortIncrAttachmentRefCounter` enters the bridge port, or does nothing. -/
theorem bridgePortIncr_cases (hsited : info.Sited) (hsure : (AttachCalls.enter info).Sure env info)
    (db) (hlacks : db.books.Lacks info) :
    BridgeTried db (db.books.enter info) (bridgePortIncrAttachmentRefCounter env info db) := by
  rw [attach_enter hsited, ← BridgeBooks.post_enter]
  exact hsure.attach_cases (AttachCalls.enter_keepsCaches _)
    BridgeBooks.bridgeIncr_bridgeDecr fun honLag =>
      BridgeBooks.lagMapInsert_lagMapRemove (hlacks.lag honLag)

theorem bridgePortIncr_done (hsited : info.Sited) (hbridge : env.Does (.bridgeIncr info.bridge_id))
    (hdefault : env.Does (.defBridgePortSet info.port_id info.bridge_port_id))
    (hlag : env.Does (.lagMapInsert info.port_id info.bridge_port_id))
    (hcount : env.Does (.incr info.attachId)) (db) :
    BridgeKept db (bridgePortIncrAttachmentRefCounter env info db).2 ∧
      (bridgePortIncrAttachmentRefCounter env info db).2.books = db.books.enter info := by
  rw [attach_enter hsited, ← BridgeBooks.post_enter]
  exact attach_done (AttachCalls.enter_keepsCaches _) hbridge hdefault hlag hcount

/-- `bridgePortDecrAttachmentRefCounter` takes the bridge port out, or does nothing. -/
theorem bridgePortDecr_cases (hsited : info.Sited) (hsure : (AttachCalls.leave info).Sure env info)
    (db) (hhas : db.books.Has info) :
    BridgeTried db (db.books.leave info) (bridgePortDecrAttachmentRefCounter env info db) := by
  rw [attach_leave hsited, ← BridgeBooks.post_leave]
  exact hsure.attach_cases (AttachCalls.leave_keepsCaches _)
    (BridgeBooks.bridgeDecr_bridgeIncr hhas.bridge) fun honLag =>
      BridgeBooks.lagMapRemove_lagMapInsert (hhas.lag honLag)

theorem bridgePortDecr_done (hsited : info.Sited) (hbridge : env.Does (.bridgeDecr info.bridge_id))
    (hdefault : env.Does (.defBridgePortSet info.port_id .null))
    (hlag : env.Does (.lagMapRemove info.port_id info.bridge_port_id))
    (hcount : env.Does (.decr info.attachId)) (db) :
    BridgeKept db (bridgePortDecrAttachmentRefCounter env info db).2 ∧
      (bridgePortDecrAttachmentRefCounter env info db).2.books = db.books.leave info := by
  rw [attach_leave hsited, ← BridgeBooks.post_leave]
  exact attach_done (AttachCalls.leave_keepsCaches _) hbridge hdefault hlag hcount

theorem bridgePortMapInsert_cases (env) (info) (db) :
    BridgeTried db (db.books.enterMap info) (bridgePortMapInsert env info db) ∧
    ((∀ o v id, env.Does (.vlanMapInsert o v id)) → (∀ t id, env.Does (.tunnelMapInsert t id)) →
      (bridgePortMapInsert env info db).1 = .success) := by
  unfold bridgePortMapInsert
  cases htype : info.bridge_port_type with
  | subPort =>
    have hbooks : db.books.enterMap info =
        db.books.write (.vlanMapInsert info.port_id info.vlan_id info.bridge_port_id) := by
      simp [BridgeBooks.enterMap, BridgeBooks.write, htype]
    obtain ⟨hkept, hcase⟩ := db.call_cases env
      (c := .vlanMapInsert info.port_id info.vlan_id info.bridge_port_id) trivial
    rw [hbooks]
    exact ⟨⟨hkept, hcase⟩, fun hvlan _ => hvlan _ _ _ _⟩
  | tunnel =>
    have hbooks : db.books.enterMap info =
        db.books.write (.tunnelMapInsert info.tunnel_id info.bridge_port_id) := by
      simp [BridgeBooks.enterMap, BridgeBooks.write, htype]
    obtain ⟨hkept, hcase⟩ := db.call_cases env
      (c := .tunnelMapInsert info.tunnel_id info.bridge_port_id) trivial
    rw [hbooks]
    exact ⟨⟨hkept, hcase⟩, fun _ htunnel => htunnel _ _ _⟩
  | _ =>
    rw [show db.books.enterMap info = db.books by simp [BridgeBooks.enterMap, htype]]
    exact ⟨⟨.refl db, .inr ⟨rfl, rfl⟩⟩, fun _ _ => rfl⟩

theorem bridgePortMapRemove_cases (env) (info) (db) :
    BridgeTried db (db.books.leaveMap info) (bridgePortMapRemove env info db) := by
  unfold bridgePortMapRemove
  cases htype : info.bridge_port_type with
  | subPort =>
    have hbooks : db.books.leaveMap info =
        db.books.write (.vlanMapRemove info.port_id info.vlan_id) := by
      simp [BridgeBooks.leaveMap, BridgeBooks.write, htype]
    obtain ⟨hkept, hcase⟩ := db.call_cases env
      (c := .vlanMapRemove info.port_id info.vlan_id) trivial
    rw [hbooks]
    exact ⟨hkept, hcase⟩
  | tunnel =>
    have hbooks : db.books.leaveMap info =
        db.books.write (.tunnelMapRemove info.tunnel_id info.bridge_port_id) := by
      simp [BridgeBooks.leaveMap, BridgeBooks.write, htype]
    obtain ⟨hkept, hcase⟩ := db.call_cases env
      (c := .tunnelMapRemove info.tunnel_id info.bridge_port_id) trivial
    rw [hbooks]
    exact ⟨hkept, hcase⟩
  | _ =>
    rw [show db.books.leaveMap info = db.books by simp [BridgeBooks.leaveMap, htype]]
    exact ⟨.refl db, .inr ⟨rfl, rfl⟩⟩

end Counters

/-! ## A bridge port comes and goes -/

/-- The ids of the live bridge ports are different, and none is null. -/
structure BridgePortIds (live : List BridgePortInfo) : Prop where
  nodup : (live.map BridgePortInfo.bridge_port_id).Nodup
  known : ∀ p ∈ live, p.bridge_port_id ≠ .null

theorem BridgePortIds.eq_of (h : BridgePortIds live) {p q}
    (hp : p ∈ live) (hq : q ∈ live) (hid : p.bridge_port_id = q.bridge_port_id) : p = q :=
  List.inj_on_of_nodup_map h.nodup hp hq hid

theorem countP_without {info}
    (hnodup : (live.map BridgePortInfo.bridge_port_id).Nodup) (hin : info ∈ live)
    (P : BridgePortInfo → Bool) :
    live.countP P =
      (live.filter fun p => p.bridge_port_id ≠ info.bridge_port_id).countP P +
        (if P info = true then 1 else 0) := by
  induction live with
  | nil => cases hin
  | cons p live ih =>
    rw [List.map_cons, List.nodup_cons] at hnodup
    obtain ⟨hfresh, hnodup⟩ := hnodup
    rcases List.mem_cons.mp hin with rfl | hin
    · -- it is the head, and no other has its id
      have hrest : live.filter (fun p => p.bridge_port_id ≠ info.bridge_port_id) = live := by
        refine List.filter_eq_self.mpr fun q hq => decide_eq_true fun hid => ?_
        exact hfresh (hid ▸ List.mem_map_of_mem hq)
      rw [List.filter_cons_of_neg (by simp), hrest, List.countP_cons]
    have hne : p.bridge_port_id ≠ info.bridge_port_id := by
      intro hid
      exact hfresh (hid ▸ List.mem_map_of_mem hin)
    rw [List.filter_cons, if_pos (decide_eq_true hne), List.countP_cons, List.countP_cons,
      ih hnodup hin]
    omega

namespace BridgeBooksOf

variable {b : BridgeBooks} {info : BridgePortInfo}

variable {C : Prop} {f : Oid → Nat} {key : BridgePortInfo → Oid}

theorem empty : BridgeBooksOf [] .empty where
  bridges _ := rfl
  refs _ := rfl
  def_port _ hp := by cases hp
  def_live _ hne := absurd rfl hne
  lag _ _ := ⟨fun h => (by cases h), fun ⟨_, hp, _⟩ => (by cases hp)⟩
  vlan _ _ _ := ⟨fun h => (by cases h), fun ⟨_, hp, _⟩ => (by cases hp)⟩
  tunnel _ _ := ⟨fun h => (by cases h), fun ⟨_, hp, _⟩ => (by cases hp)⟩

theorem has (h : BridgeBooksOf live b) (hin : info ∈ live) : b.Has info where
  bridge := by
    rw [h.bridges]
    exact List.countP_pos_iff.mpr ⟨info, hin, decide_eq_true rfl⟩
  refs := by
    rw [h.refs]
    exact List.countP_pos_iff.mpr ⟨info, hin, decide_eq_true rfl⟩
  def_port := h.def_port _ hin
  lag honLag := (h.lag _ _).mpr ⟨info, hin, honLag.1, honLag.2, rfl, rfl⟩
  vlan hsub := (h.vlan _ _ _).mpr ⟨info, hin, hsub, rfl, rfl, rfl⟩
  tunnel htun := (h.tunnel _ _).mpr ⟨info, hin, htun, rfl, rfl⟩

theorem lacks (h : BridgeBooksOf live b)
    (hfresh : ∀ p ∈ live, p.bridge_port_id ≠ info.bridge_port_id)
    (hdef : info.bridge_port_type = .port → b.def_port info.port_id = .null) : b.Lacks info where
  def_port := hdef
  lag _ := by
    refine Bool.eq_false_iff.mpr fun hyes => ?_
    obtain ⟨p, hp, -, -, -, hid⟩ := (h.lag _ _).mp hyes
    exact hfresh p hp hid

theorem counts_add (h : ∀ o, f o = live.countP fun p => key p = o) (o) :
    (if o = key info then f o + 1 else f o) = (info :: live).countP fun p => key p = o := by
  rw [List.countP_cons, ← h o]
  by_cases ho : o = key info
  · rw [if_pos ho, if_pos (decide_eq_true ho.symm)]
  · rw [if_neg ho, if_neg (by simpa using fun h => ho (Eq.symm h))]
    rfl

theorem entries_add [Decidable C] {x : Bool} (hC : C ↔ Q info) (h : x = true ↔ ∃ p ∈ live, Q p) :
    (if C then true else x) = true ↔ ∃ p ∈ info :: live, Q p := by
  rw [List.exists_mem_cons_iff, ← h, ← hC]
  by_cases hyes : C <;> simp [hyes]

theorem add (h : BridgeBooksOf live b) (hids : BridgePortIds live) (hnull : info.bridge_port_id ≠ .null)
    (hdef : info.bridge_port_type = .port → b.def_port info.port_id = .null)
    (hvlan : info.bridge_port_type = .subPort → b.vlan_map info.port_id info.vlan_id = none) :
    BridgeBooksOf (info :: live) ((b.enter info).enterMap info) where
  bridges := counts_add h.bridges
  refs := counts_add h.refs
  def_port p hp hport := by
    show (if info.bridge_port_type = .port ∧ p.port_id = info.port_id then _ else _) = _
    rcases List.mem_cons.mp hp with rfl | hp
    · exact if_pos ⟨hport, rfl⟩
    -- an older one of this port would be its default bridge port
    rw [if_neg]
    · exact h.def_port p hp hport
    rintro ⟨hport', hsame⟩
    have hold := h.def_port p hp hport
    rw [hsame, hdef hport'] at hold
    exact hids.known p hp hold.symm
  def_live o hne := by
    change (if info.bridge_port_type = .port ∧ o = info.port_id then _ else _) ≠ _ at hne
    show ∃ p ∈ info :: live, _ ∧ _ ∧ _ =
      if info.bridge_port_type = .port ∧ o = info.port_id then _ else _
    by_cases hyes : info.bridge_port_type = .port ∧ o = info.port_id
    · rw [if_pos hyes]
      exact ⟨info, List.mem_cons_self, hyes.1, hyes.2.symm, rfl⟩
    rw [if_neg hyes] at hne ⊢
    obtain ⟨p, hp, hrest⟩ := h.def_live o hne
    exact ⟨p, List.mem_cons_of_mem _ hp, hrest⟩
  lag l id := entries_add (by simp only [BridgePortInfo.OnLag, and_assoc, eq_comm]) (h.lag l id)
  vlan o v id := by
    show (if info.bridge_port_type = .subPort ∧ o = info.port_id ∧ v = info.vlan_id then
      some info.bridge_port_id else b.vlan_map o v) = some id ↔ _
    rw [List.exists_mem_cons_iff, ← h.vlan o v id]
    by_cases hyes : info.bridge_port_type = .subPort ∧ o = info.port_id ∧ v = info.vlan_id
    · rw [if_pos hyes, hyes.2.1, hyes.2.2, hvlan hyes.1]
      constructor
      · intro hid
        exact .inl ⟨hyes.1, rfl, rfl, Option.some.inj hid⟩
      · rintro (⟨-, -, -, hid⟩ | hold)
        · rw [hid]
        · cases hold
    · rw [if_neg hyes]
      refine ⟨.inr, ?_⟩
      rintro (⟨hsub, hport, hv, -⟩ | hold)
      · exact absurd ⟨hsub, hport.symm, hv.symm⟩ hyes
      · exact hold
  tunnel t id := entries_add (by simp only [eq_comm]) (h.tunnel t id)

theorem mem_without {p} :
    p ∈ (live.filter fun p => p.bridge_port_id ≠ info.bridge_port_id) ↔
      p ∈ live ∧ p.bridge_port_id ≠ info.bridge_port_id := by
  rw [List.mem_filter, decide_eq_true_iff]

theorem exists_without (hids : BridgePortIds live) (hin : info ∈ live) (hnot : ¬Q info) :
    (∃ p ∈ (live.filter fun p => p.bridge_port_id ≠ info.bridge_port_id), Q p) ↔ ∃ p ∈ live, Q p := by
  constructor
  · rintro ⟨p, hp, hQ⟩
    exact ⟨p, (mem_without.mp hp).1, hQ⟩
  · rintro ⟨p, hp, hQ⟩
    refine ⟨p, mem_without.mpr ⟨hp, fun hid => ?_⟩, hQ⟩
    rw [hids.eq_of hp hin hid] at hQ
    exact hnot hQ

theorem counts_remove (hids : BridgePortIds live)
    (hin : info ∈ live) (h : ∀ o, f o = live.countP fun p => key p = o) (o) :
    (if o = key info then f o - 1 else f o) =
      (live.filter fun p => p.bridge_port_id ≠ info.bridge_port_id).countP fun p => key p = o := by
  have hcount := countP_without hids.nodup hin fun p => decide (key p = o)
  rw [← h o] at hcount
  by_cases ho : o = key info
  · rw [if_pos (decide_eq_true ho.symm)] at hcount
    rw [if_pos ho, hcount]
    exact Nat.add_sub_cancel ..
  rw [if_neg (by simpa using fun h => ho (Eq.symm h))] at hcount
  rw [if_neg ho, hcount]
  rfl

theorem entries_remove [Decidable C] {x : Bool}
    (hids : BridgePortIds live) (hin : info ∈ live) (hC : C ↔ Q info)
    (hid : ∀ p, Q info → Q p → p.bridge_port_id = info.bridge_port_id) (h : x = true ↔ ∃ p ∈ live, Q p) :
    (if C then false else x) = true ↔
      ∃ p ∈ (live.filter fun p => p.bridge_port_id ≠ info.bridge_port_id), Q p := by
  by_cases hyes : C
  · rw [if_pos hyes]
    refine ⟨fun h => (by cases h), ?_⟩
    rintro ⟨p, hp, hQ⟩
    exact absurd (hid p (hC.mp hyes) hQ) (mem_without.mp hp).2
  · rw [if_neg hyes, h]
    exact (exists_without hids hin fun hQ => hyes (hC.mpr hQ)).symm

theorem remove (h : BridgeBooksOf live b) (hids : BridgePortIds live) (hin : info ∈ live) :
    BridgeBooksOf (live.filter fun p => p.bridge_port_id ≠ info.bridge_port_id)
      ((b.leave info).leaveMap info) where
  bridges := counts_remove hids hin h.bridges
  refs := counts_remove hids hin h.refs
  def_port p hp hport := by
    obtain ⟨hp, hne⟩ := mem_without.mp hp
    show (if info.bridge_port_type = .port ∧ p.port_id = info.port_id then _ else _) = _
    rw [if_neg]
    · exact h.def_port p hp hport
    -- two bridge ports of one port would both be its default bridge port
    rintro ⟨hport', hsame⟩
    have hdef := h.def_port p hp hport
    rw [hsame, h.def_port info hin hport'] at hdef
    exact hne hdef.symm
  def_live o hne := by
    change (if info.bridge_port_type = .port ∧ o = info.port_id then _ else _) ≠ _ at hne
    show ∃ p ∈ _, _ ∧ _ ∧ _ = if info.bridge_port_type = .port ∧ o = info.port_id then _ else _
    by_cases hyes : info.bridge_port_type = .port ∧ o = info.port_id
    · rw [if_pos hyes] at hne
      exact absurd rfl hne
    rw [if_neg hyes] at hne ⊢
    refine (exists_without hids hin ?_).mpr (h.def_live o hne)
    exact fun hinfo => hyes ⟨hinfo.1, hinfo.2.1.symm⟩
  lag l id := entries_remove hids hin (by simp only [BridgePortInfo.OnLag, and_assoc, eq_comm])
    (fun _ hinfo hQ => hQ.2.2.2.trans hinfo.2.2.2.symm) (h.lag l id)
  vlan o v id := by
    show (if info.bridge_port_type = .subPort ∧ o = info.port_id ∧ v = info.vlan_id then none
      else b.vlan_map o v) = some id ↔ _
    by_cases hyes : info.bridge_port_type = .subPort ∧ o = info.port_id ∧ v = info.vlan_id
    · rw [if_pos hyes]
      refine ⟨fun h => (by cases h), ?_⟩
      -- the entry of the port and the VLAN is that of the bridge port that goes
      rintro ⟨p, hp, hsub, hport, hv, hid⟩
      obtain ⟨hp, hne⟩ := mem_without.mp hp
      have hold := (h.vlan o v p.bridge_port_id).mpr ⟨p, hp, hsub, hport, hv, rfl⟩
      have hinfo := (h.vlan o v info.bridge_port_id).mpr
        ⟨info, hin, hyes.1, hyes.2.1.symm, hyes.2.2.symm, rfl⟩
      rw [hold] at hinfo
      exact absurd (Option.some.inj hinfo) hne
    · rw [if_neg hyes, h.vlan o v id]
      refine (exists_without hids hin ?_).symm
      rintro ⟨hsub, hport, hv, -⟩
      exact hyes ⟨hsub, hport.symm, hv.symm⟩
  tunnel t id := entries_remove hids hin (by simp only [eq_comm])
    (fun _ hinfo hQ => hQ.2.2.trans hinfo.2.2.symm) (h.tunnel t id)

end BridgeBooksOf

end OpxSai
