import OpxSai.Bridge.BridgeBooks

/-!
# The bridge ports of tunnels

Which bridge is connected to which tunnel is read off the cache of bridge ports. A create connects at most
one more pair, to a tunnel that was there, and nothing else does.
-/

namespace OpxSai

/-- Connected pairs were connected before, or are allowed. -/
def Connects (ok : Oid → Oid → Prop) (db db' : BridgeDb) : Prop :=
  ∀ b t, isBridgeConnectedToTunnel b t db' = true → isBridgeConnectedToTunnel b t db = true ∨ ok b t

section Connect

variable {ok : Oid → Oid → Prop} {db db₁ db₂ : BridgeDb}

theorem Connects.refl (db) : Connects ok db db := fun _ _ h => .inl h

theorem Connects.trans (h : Connects ok db db₁) (k : Connects ok db₁ db₂) : Connects ok db db₂ :=
  fun b t hc => (k b t hc).elim (h b t) .inr

theorem isBridgeConnectedToTunnel_iff {b t} : isBridgeConnectedToTunnel b t db = true ↔
    ∃ p ∈ db.bridge_ports, p.bridge_port_type = .tunnel ∧ p.bridge_id = b ∧ p.tunnel_id = t := by
  simp only [isBridgeConnectedToTunnel, List.any_eq_true, decide_eq_true_eq]

theorem BridgeKept.connects (h : BridgeKept db db₁) : Connects ok db db₁ := fun b t hc => by
  rw [isBridgeConnectedToTunnel_iff, h.ports, ← isBridgeConnectedToTunnel_iff] at hc
  exact .inl hc

def BridgeCall.WritesNoPort : BridgeCall → Prop
  | .bridgePortCacheWrite _ => False
  | _ => True

theorem call_connects (env) {c} (hc : c.WritesNoPort) (db) :
    Connects ok db (db.call env c).2 := by
  by_cases hkeeps : c.KeepsCaches
  · exact (db.call_cases env hkeeps).1.connects
  simp only [BridgeDb.call]
  split
  · exact fun _ _ h => .inl h
  cases c with
  | bridgeCacheWrite _ _ => exact fun _ _ h => .inl h
  | bridgeCacheDelete _ => exact fun _ _ h => .inl h
  | bridgePortCacheWrite info => exact absurd hc id
  | bridgePortCacheDelete _ =>
    intro b t h
    obtain ⟨p, hp, hpair⟩ := isBridgeConnectedToTunnel_iff.mp h
    exact .inl (isBridgeConnectedToTunnel_iff.mpr ⟨p, (List.mem_filter.mp hp).1, hpair⟩)
  | _ => exact absurd trivial hkeeps

theorem bridgePortCacheWrite_connects (env) {info}
    (hinfo : info.bridge_port_type = .tunnel → ok info.bridge_id info.tunnel_id) (db) :
    Connects ok db (db.call env (.bridgePortCacheWrite info)).2 := by
  simp only [BridgeDb.call]
  split
  · exact fun _ _ h => .inl h
  intro b t h
  obtain ⟨p, hp, htype, rfl, rfl⟩ := isBridgeConnectedToTunnel_iff.mp h
  rcases List.mem_cons.mp hp with rfl | hp
  · exact .inr (hinfo htype)
  · exact .inl (isBridgeConnectedToTunnel_iff.mpr ⟨p, hp, htype, rfl, rfl⟩)

end Connect

/-! ## The parts of the calls -/

section Parts

variable {ok : Oid → Oid → Prop} (env : BridgeEnv) (info : BridgePortInfo) (db : BridgeDb)

theorem bridgePortIncrAttachmentRefCounter_connects :
    Connects ok db (bridgePortIncrAttachmentRefCounter env info db).2 :=
  (bridgePortIncrAttachmentRefCounter_kept env _ db).connects

theorem bridgePortDecrAttachmentRefCounter_connects :
    Connects ok db (bridgePortDecrAttachmentRefCounter env info db).2 :=
  (bridgePortDecrAttachmentRefCounter_kept env _ db).connects

theorem bridgePortMapInsert_connects : Connects ok db (bridgePortMapInsert env info db).2 := by
  unfold bridgePortMapInsert
  split
  · exact call_connects env (by trivial) db
  · exact call_connects env (by trivial) db
  · exact .refl db

theorem bridgePortMapRemove_connects : Connects ok db (bridgePortMapRemove env info db).2 := by
  unfold bridgePortMapRemove
  split
  · exact call_connects env (by trivial) db
  · exact call_connects env (by trivial) db
  · exact .refl db

theorem bridgePortSetAttribute_connects (bridge_port_id) (attr) :
    Connects ok db (bridgePortSetAttribute env bridge_port_id attr db).2 := by
  have hcall := @call_connects ok env (.bridgePortSetAttribute bridge_port_id attr) trivial db
  unfold bridgePortSetAttribute
  split
  · exact .refl db
  dsimp only
  split
  · exact hcall
  refine hcall.trans fun b t h => ?_
  obtain ⟨p, hp, hpair⟩ := isBridgeConnectedToTunnel_iff.mp h
  obtain ⟨q, hq, rfl⟩ := List.mem_map.mp hp
  refine .inl (isBridgeConnectedToTunnel_iff.mpr ⟨q, hq, ?_⟩)
  split at hpair
  · cases attr <;> exact hpair
  · exact hpair

theorem bridgePortSetAttributes_connects (bridge_port_id) (attr_list) :
    ∀ x : Status × BridgeDb, Connects ok x.2 (bridgePortSetAttributes env bridge_port_id attr_list x).2 := by
  induction attr_list with
  | nil => exact fun x => .refl x.2
  | cons attr attr_list ih =>
    intro x
    have hset := @bridgePortSetAttribute_connects ok env x.2 bridge_port_id attr
    simp only [bridgePortSetAttributes]
    split
    · split
      · exact hset
      · exact hset.trans (ih _)
    · exact ih x

end Parts

/-! ## The calls -/

section Calls

variable {env : BridgeEnv} {attr_list : List BridgePortAttr} {db : BridgeDb}

theorem bridgePortFillFrom_tunnel {attr_list} : ∀ {attr_idx scan scan'},
    (scan.tunnel_id = .null ∨ env.tunnel_created scan.tunnel_id = true) →
      bridgePortFillFrom env db attr_idx attr_list scan = .ok scan' →
        scan'.tunnel_id = .null ∨ env.tunnel_created scan'.tunnel_id = true := by
  induction attr_list with
  | nil =>
    intro _ scan scan' h hok
    cases hok
    exact h
  | cons attr attr_list ih =>
    intro attr_idx scan scan' h hok
    rw [bridgePortFillFrom] at hok
    split at hok
    · cases hok
    rename_i scan₁ hfill
    refine ih ?_ hok
    unfold bridgePortFillAttr at hfill
    split at hfill
    case h_5 =>
      split at hfill
      · cases hfill
      rename_i hcreated
      cases hfill
      exact .inr (by simpa using hcreated)
    all_goals
      try split at hfill
      all_goals first
        | cases hfill; done
        | (obtain rfl := Except.ok.inj hfill; exact h)

theorem bridgePortValidateAndFillAttributes_tunnel {info}
    (hok : (bridgePortValidateAndFillAttributes env attr_list db).1 = .ok info)
    (htype : info.bridge_port_type = .tunnel) : env.tunnel_created info.tunnel_id = true := by
  obtain ⟨scan, _, hscan, -, -, hattach⟩ := bridgePortValidateAndFillAttributes_filled hok
  have htunnel := bridgePortFillFrom_tunnel (.inl rfl) hscan
  unfold bridgePortValidateAndFillAttachment at hattach
  split at hattach
  case h_5 =>
    split at hattach
    · cases hattach
    rename_i hnull
    split at hattach
    · cases hattach
    · cases hattach
      exact htunnel.resolve_left hnull
  all_goals
    rename_i hother
    repeat' first
      | cases hattach; done
      | (obtain rfl := Except.ok.inj hattach; exact absurd (hother.symm.trans htype) (by simp))
      | split at hattach
      | dsimp only at hattach

theorem bridgePortValidateAndFillAttributes_connects {ok : Oid → Oid → Prop} :
    Connects ok db (bridgePortValidateAndFillAttributes env attr_list db).2 := by
  unfold bridgePortValidateAndFillAttributes
  split
  · exact .refl db
  split
  · exact .refl db
  split
  · exact .refl db
  split
  · exact .refl db
  dsimp only
  unfold bridgePortValidateAndFillAttachment
  split
  case h_1 =>
    split
    · exact .refl db
    split
    · exact .refl db
    dsimp only
    split
    · exact call_connects env (by trivial) db
    split <;> exact call_connects env (by trivial) db
  all_goals
    repeat' first
      | exact .refl db
      | split

theorem bridgePortCreate_connects (env) {attr_list} {db} :
    Connects (fun _ t => env.tunnel_created t = true) db (bridgePortCreate env attr_list db).2 := by
  unfold bridgePortCreate
  split
  · exact .refl db
  have hchecks := @bridgePortValidateAndFillAttributes_connects env attr_list db
    (fun _ t => env.tunnel_created t = true)
  dsimp only
  split
  · exact hchecks
  rename_i info hinfo
  have hmade := hchecks.trans (call_connects env (c := .bridgePortCreate info) trivial _)
  split
  · exact hmade
  have hwritten := hmade.trans (@bridgePortCacheWrite_connects _ env
    { info with bridge_port_id := env.npu_bridge_port_id }
    (bridgePortValidateAndFillAttributes_tunnel hinfo) _)
  split
  · exact hwritten.trans (call_connects env (by trivial) _)
  unfold bridgePortCreateCached
  have hset := hwritten.trans (bridgePortSetAttributes_connects env env.npu_bridge_port_id attr_list _)
  dsimp only
  split
  · exact (hset.trans (call_connects env (by trivial) _)).trans (call_connects env (by trivial) _)
  have hincr := hset.trans (bridgePortIncrAttachmentRefCounter_connects env
    { info with bridge_port_id := env.npu_bridge_port_id } _)
  split
  · exact (hincr.trans (call_connects env (by trivial) _)).trans (call_connects env (by trivial) _)
  have hmap := hincr.trans (bridgePortMapInsert_connects env
    { info with bridge_port_id := env.npu_bridge_port_id } _)
  split
  · exact ((hmap.trans (call_connects env (by trivial) _)).trans
      (bridgePortDecrAttachmentRefCounter_connects env _ _)).trans (call_connects env (by trivial) _)
  · exact hmap

theorem bridgePortRemoveUndo_connects {ok : Oid → Oid → Prop} (env) (info)
    (ref_count_update map_update : Bool) (db) :
    Connects ok db (bridgePortRemoveUndo env info ref_count_update map_update db) := by
  have hmade := @call_connects ok env (.bridgePortCreate info) trivial db
  unfold bridgePortRemoveUndo
  dsimp only
  split
  · exact hmade
  have hincr := hmade.trans (bridgePortIncrAttachmentRefCounter_connects env info _)
  cases ref_count_update <;> cases map_update
  · exact hmade
  · exact hmade.trans (bridgePortMapInsert_connects env info _)
  · exact hincr
  · exact hincr.trans (bridgePortMapInsert_connects env info _)

theorem bridgePortRemove_connects {env} {bridge_port_id} {db} :
    Connects (fun _ _ => False) db (bridgePortRemove env bridge_port_id db).2 := by
  unfold bridgePortRemove
  split
  · exact .refl db
  rename_i info _
  split
  · exact .refl db
  have hgone := @call_connects (fun _ _ => False) env (.bridgePortRemove info) trivial db
  dsimp only
  split
  · exact hgone
  have hdecr := hgone.trans (bridgePortDecrAttachmentRefCounter_connects env info _)
  split
  · exact hdecr.trans (bridgePortRemoveUndo_connects env info _ _ _)
  have hmap := hdecr.trans (bridgePortMapRemove_connects env info _)
  split
  · exact hmap.trans (bridgePortRemoveUndo_connects env info _ _ _)
  have hdelete := hmap.trans (@call_connects _ env (.bridgePortCacheDelete bridge_port_id) trivial _)
  split
  · exact hdelete.trans (bridgePortRemoveUndo_connects env info _ _ _)
  · exact hdelete

end Calls

end OpxSai
