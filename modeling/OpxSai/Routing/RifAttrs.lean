import OpxSai.Routing.RifUnique

/-!
# Routing — the attributes of a router interface

An attribute of a create request is taken or refused by what came before it, and writes its own fields
of the record; type, port and VLAN are checked against each other in whichever order they come. The
record starts with the MAC address of the switch, and a LOOPBACK type is refused on a record that has
one.

* `rifAttrFill_ok_iff` — when an attribute is taken, and what it writes;
* `rifsFormed_of_run` — type, attachment and virtual router of a router interface fit;
* `noLoopback_of_run` — a switch with a MAC address never has a LOOPBACK router interface.
-/

namespace OpxSai

open Fib

variable {env : Env} {s t : Fib} {info info' : RifInfo} {attr : RifAttr} {xs : List RifAttr} {rif : Rif}

/-! ## One attribute -/

/-- What a record has to be for the attribute to be taken. -/
def RifAttr.Taken (env : Env) (s : Fib) (info : RifInfo) : RifAttr → Prop
  | .virtualRouterId oid => oid.type = .virtualRouter ∧ (s.vrf oid).isSome
  | .type s32 => ∃ type, rifTypeValidate s32 = some type ∧ (type = .vlan → info.is_port_set = false) ∧
      (type = .port → info.is_vlan_set = false) ∧ (type = .loopback →
        info.is_port_set = false ∧ info.is_vlan_set = false ∧ info.rif.src_mac = 0)
  | .portId oid => (info.is_vlan_set = false ∧ info.rif.type ≠ .vlan ∧ info.rif.type ≠ .loopback) ∧
      (oid.type = .port ∨ oid.type = .lag) ∧ env.port_valid oid = true
  | .vlanId oid => (info.is_port_set = false ∧ info.rif.type ≠ .port ∧ info.rif.type ≠ .loopback) ∧
      env.vlan_created oid = true
  | .srcMacAddress mac => mac ≠ 0 ∧ info.rif.type ≠ .loopback
  | .adminV4State _ | .adminV6State _ | .mtu _ | .ingressAcl | .egressAcl => True
  | .v4McastEnable | .v6McastEnable | .other _ => False

/-- What an attribute that is taken writes. -/
def RifAttr.write (info : RifInfo) : RifAttr → RifInfo
  | .virtualRouterId oid =>
    { info with rif := { info.rif with vrf_id := oid }, type := info.rif.type, is_vrf_set := true }
  | .type s32 =>
    let type := (rifTypeValidate s32).getD .none
    { info with rif := { info.rif with type := type }, type := type }
  | .portId oid =>
    { info with rif := { info.rif with attachment := oid }, type := info.rif.type, is_port_set := true }
  | .vlanId oid =>
    { info with rif := { info.rif with attachment := oid }, type := info.rif.type, is_vlan_set := true }
  | .srcMacAddress mac => { info with rif := { info.rif with src_mac := mac }, mac_flag := true }
  | .adminV4State booldata =>
    { info with rif := { info.rif with v4_admin_state := booldata }, v4_flag := true }
  | .adminV6State booldata =>
    { info with rif := { info.rif with v6_admin_state := booldata }, v6_flag := true }
  | .mtu u32 => { info with rif := { info.rif with mtu := u32 } }
  | _ => info

theorem ite_error_eq_ok {α : Type} {p : Prop} [Decidable p] {e : Status} {x : Except Status α} {v : α} :
    (if p then .error e else x) = .ok v ↔ ¬p ∧ x = .ok v := by
  split <;> simp [*]

theorem rifAttrFill_ok_iff :
    rifAttrFill env s info attr = .ok info' ↔ attr.Taken env s info ∧ attr.write info = info' := by
  cases attr with
  | virtualRouterId oid =>
    simp only [rifAttrFill, rifVrfAttrSet, ite_error_eq_ok, RifAttr.Taken, RifAttr.write, Except.ok.injEq]
    simp [and_assoc, Option.isSome_iff_ne_none]
  | type s32 =>
    simp only [rifAttrFill, rifTypeAttrSet, RifAttr.Taken, RifAttr.write]
    cases rifTypeValidate s32 with
    | none => simp
    | some type =>
      simp only [ite_error_eq_ok, Except.ok.injEq, Option.getD_some]
      cases type <;> simp [and_assoc]
  | portId oid =>
    simp only [rifAttrFill, rifPortIdAttrSet, ite_error_eq_ok, RifAttr.Taken, RifAttr.write, Except.ok.injEq]
    simp [and_assoc, imp_iff_not_or]
  | vlanId oid =>
    simp only [rifAttrFill, rifVlanIdAttrSet, ite_error_eq_ok, RifAttr.Taken, RifAttr.write, Except.ok.injEq]
    simp [and_assoc]
  | srcMacAddress mac =>
    simp only [rifAttrFill, rifMacAttrSet, ite_error_eq_ok, RifAttr.Taken, RifAttr.write, Except.ok.injEq]
    simp
  | _ => simp [rifAttrFill, RifAttr.Taken, RifAttr.write]

/-! ## The record -/

/-- What the loop over the attributes keeps of type and attachment. -/
structure RifInfo.Formed (info : RifInfo) : Prop where
  type : info.type = info.rif.type
  port : info.is_port_set = true → (info.rif.type ≠ .vlan ∧ info.rif.type ≠ .loopback) ∧
    (info.rif.attachment.type = .port ∨ info.rif.attachment.type = .lag)
  vlan : info.is_vlan_set = true → info.rif.type ≠ .port ∧ info.rif.type ≠ .loopback
  bare : info.is_port_set = false → info.is_vlan_set = false → info.rif.attachment = .null
  vr : info.is_vrf_set = true → info.rif.vrf_id.type = .virtualRouter

/-- **Type and attachment fit**, for a router interface. -/
structure RifFormed (type : RifType) (attachment vrf_id : Oid) : Prop where
  typed : type ≠ .none
  port : type = .port → attachment.type = .port ∨ attachment.type = .lag
  loopback : type = .loopback → attachment = .null
  vr : vrf_id.type = .virtualRouter

theorem RifInfo.Formed.write (h : info.Formed) (htaken : attr.Taken env s info) : (attr.write info).Formed := by
  obtain ⟨htype, hport, hvlan, hbare, hvr⟩ := h
  cases attr with
  | virtualRouterId oid => exact ⟨rfl, hport, hvlan, hbare, fun _ => htaken.1⟩
  | type s32 =>
    obtain ⟨type, htype, hvlan', hport', hloop⟩ := htaken
    simp only [RifAttr.write, htype, Option.getD_some]
    exact ⟨rfl, by grind, by grind, hbare, hvr⟩
  | portId oid =>
    exact ⟨rfl, fun _ => ⟨htaken.1.2, htaken.2.1⟩, by simp [RifAttr.write, htaken.1.1],
      by simp [RifAttr.write], hvr⟩
  | vlanId oid =>
    exact ⟨rfl, by simp [RifAttr.write, htaken.1.1], fun _ => htaken.1.2, by simp [RifAttr.write], hvr⟩
  | _ => exact ⟨htype, hport, hvlan, hbare, hvr⟩

theorem rifAttributesParse_keeps {P : RifInfo → Prop}
    (hwrite : ∀ info (attr : RifAttr), P info → attr.Taken env s info → P (attr.write info))
    (hinit : P ⟨rifAttributesInit env, false, false, false, .none, false, false, false⟩)
    (hok : rifAttributesParse env xs (rifAttributesInit env) s = .ok rif) :
    ∃ info, P info ∧ (info.is_port_set = true ∨ info.is_vlan_set = true ∨ info.type = .loopback) ∧
      info.is_vrf_set = true ∧ info.type ≠ .none ∧ rif.type = info.rif.type ∧
      rif.attachment = info.rif.attachment ∧ rif.vrf_id = info.rif.vrf_id := by
  unfold rifAttributesParse at hok
  split at hok
  · cases hok
  rename_i info hparse
  split at hok
  · cases hok
  rename_i hmandatory
  simp only at hok
  split at hok
  · cases hok
  cases hok
  refine ⟨info, attrListParse_keeps (fun info attr info' h hset => ?_) hinit hparse,
    by grind, by grind, by grind, ?_⟩
  · unfold rifAttrSet at hset
    split at hset
    · cases hset
    rename_i info₁ hfill
    obtain ⟨htaken, rfl⟩ := rifAttrFill_ok_iff.mp hfill
    simp only at hset
    split at hset
    · cases hset
    · cases hset
      exact hwrite _ _ h htaken
  · -- the virtual router gives MAC address, admin states and packet action only
    unfold rifInheritVrfAttributes
    split <;> exact ⟨rfl, rfl, rfl⟩

theorem rifAttributesParse_formed (hok : rifAttributesParse env xs (rifAttributesInit env) s = .ok rif) :
    RifFormed rif.type rif.attachment rif.vrf_id := by
  obtain ⟨info, h, hset, hvrf, hnone, htype, hport, hvr⟩ := rifAttributesParse_keeps (P := RifInfo.Formed)
    (fun _ _ h => h.write) ⟨rfl, by simp, by simp, fun _ _ => rfl, by simp⟩ hok
  have htyped := h.type
  obtain ⟨-, hp, hv, hb, hr⟩ := h
  refine ⟨by grind, fun h => ?_, fun h => ?_, by grind⟩
  · grind
  · rw [hport]
    exact hb (by grind) (by grind)

/-! ## Runs -/

inductive RifAnyCall (Q : Env → Prop) : Call → Fib → Prop where
  | create {env : Env} (henv : Q env) {rif_obj_id : Oid} {attr_list : List RifAttr} {s : Fib} :
      RifAnyCall Q ⟨env, .routerInterfaceCreate rif_obj_id attr_list⟩ s
  | remove {env : Env} {rif_id : Oid} {s : Fib} : RifAnyCall Q ⟨env, .routerInterfaceRemove rif_id⟩ s
  | attributeSet {env : Env} {rif_id : Oid} {attr : RifAttr} {s : Fib} :
      RifAnyCall Q ⟨env, .routerInterfaceAttributeSet rif_id attr⟩ s

theorem routerInterfaceRemove_subset (env) (rif_id) (s) :
    (routerInterfaceRemove env rif_id s).2.router_interface_tree ⊆ s.router_interface_tree := by
  unfold routerInterfaceRemove
  split
  · exact fun _ h => h
  split
  · exact fun _ h => h
  rename_i rif _
  refine andThen_keeps (P := fun t => t.router_interface_tree ⊆ s.router_interface_tree) ?_ fun ht => ?_
  · rcases rifRemoveNode_cases (s := s) env rif with ⟨-, -, -, htree, -⟩ | ⟨-, hframe⟩
    · rw [htree]
      exact List.filter_sublist.subset
    · rw [hframe.rifs]
      exact fun _ h => h
  · split
    · exact ht
    · exact ht

/-- What holds of type, attachment and virtual router of what the attributes make holds of every router
interface. -/
theorem rifs_of_run {Q : Env → Prop} {P : RifType → Oid → Oid → Prop}
    (hparse : ∀ env s attr_list rif, Q env →
      rifAttributesParse env attr_list (rifAttributesInit env) s = .ok rif → P rif.type rif.attachment rif.vrf_id)
    (hs : s.router_interface_tree = []) (hrun : FibRun (RifAnyCall Q) s t) :
    ∀ rif ∈ t.router_interface_tree, P rif.type rif.attachment rif.vrf_id := by
  refine hrun.induct (P := fun s => ∀ rif ∈ s.router_interface_tree, P rif.type rif.attachment rif.vrf_id)
    (fun c s h hc => ?_) (by simp [hs])
  cases hc with
  | @create env henv rif_obj_id attr_list =>
    obtain ⟨rif_id, ⟨rif, hc, -, htree, -⟩ | ⟨-, -, htree⟩, -⟩ :=
      routerInterfaceCreate_cases (s := s) env rif_obj_id attr_list
    · intro r hr
      change r ∈ (routerInterfaceCreate env rif_obj_id attr_list s).1.2.router_interface_tree at hr
      rw [htree, List.mem_append] at hr
      rcases hr with hr | hr
      · exact h r hr
      · obtain rfl := List.mem_singleton.mp hr
        exact hparse env s attr_list rif henv hc.parse
    · intro r hr
      exact h r (by rwa [← htree])
  | remove => exact fun r hr => h r (routerInterfaceRemove_subset _ _ _ hr)
  | @attributeSet env rif_id attr =>
    show ∀ rif ∈ (routerInterfaceAttributeSet env rif_id attr s).2.router_interface_tree, _
    unfold routerInterfaceAttributeSet
    split
    · exact h
    split
    · exact h
    rename_i rif hrif
    split
    · exact h
    rename_i hopt
    split
    · exact h
    split
    · exact h
    rename_i rif' hset
    split
    · exact h
    -- a set call changes none of the three
    obtain ⟨⟨-, hvrf, htype, hport⟩, -⟩ := rifOptionalAttrSet_ok (by simpa using hopt) hset
    refine andThen_keeps (P := fun t =>
      ∀ rif ∈ t.router_interface_tree, P rif.type rif.attachment rif.vrf_id) h fun _ r hr => ?_
    obtain ⟨old, hold, rfl⟩ := List.mem_map.mp hr
    split
    · rw [htype, hport, hvrf]
      exact h rif (List.mem_of_find?_eq_some hrif)
    · exact h old hold

/-- **Any run**: the types and attachments of the router interfaces fit. -/
theorem rifsFormed_of_run (hs : s.router_interface_tree = []) (hrun : FibRun (RifAnyCall fun _ => True) s t) :
    ∀ rif ∈ t.router_interface_tree, RifFormed rif.type rif.attachment rif.vrf_id :=
  rifs_of_run (fun _ _ _ _ _ hok => rifAttributesParse_formed hok) hs hrun

theorem rifsFormed_of_run_twoOnPort5 : twoOnPort5.router_interface_tree.length = 2 ∧
    ∀ rif ∈ twoOnPort5.router_interface_tree, RifFormed rif.type rif.attachment rif.vrf_id :=
  ⟨by decide,
    rifsFormed_of_run (s := oneVr) rfl (.snoc _ (.snoc _ (.nil _) (.create trivial)) (.create trivial))⟩

/-- **No LOOPBACK**: a switch that has a MAC address gives it to the record before the type comes, and
no LOOPBACK router interface takes one. -/
theorem noLoopback_of_run (hs : s.router_interface_tree = [])
    (hrun : FibRun (RifAnyCall fun env => env.switch_mac ≠ 0) s t) :
    ∀ rif ∈ t.router_interface_tree, rif.type ≠ .loopback := by
  refine @rifs_of_run _ _ _ (fun type _ _ => type ≠ .loopback)
    (fun env s attr_list rif hmac hok => ?_) hs hrun
  let P : RifInfo → Prop := fun info => info.rif.src_mac ≠ 0 ∧ info.rif.type ≠ .loopback
  have hwrite : ∀ info (attr : RifAttr), P info → attr.Taken env s info → P (attr.write info) := by
    intro info attr h htaken
    cases attr with
    | type s32 =>
      -- LOOPBACK is taken where there is no MAC address yet
      obtain ⟨type, htype, -, -, hloop⟩ := htaken
      simp only [RifAttr.write, htype, Option.getD_some]
      exact ⟨h.1, fun heq => h.1 (hloop heq).2.2⟩
    | srcMacAddress mac => exact ⟨htaken.1, h.2⟩
    | _ => exact h
  obtain ⟨info, h, -, -, -, htype, -⟩ :=
    rifAttributesParse_keeps hwrite ⟨hmac, by simp [rifAttributesInit]⟩ hok
  rw [htype]
  exact h.2

theorem noLoopback_of_run_twoOnPort5 : twoOnPort5.router_interface_tree.length = 2 ∧
    ∀ rif ∈ twoOnPort5.router_interface_tree, rif.type ≠ .loopback :=
  ⟨by decide, noLoopback_of_run (s := oneVr) rfl
    (.snoc _ (.snoc _ (.nil _) (.create (by decide))) (.create (by decide)))⟩

end OpxSai
