import OpxSai.Routing.System

/-!
# Routing — the map from LAGs to router interfaces

The map entry of a LAG is written at the end of every create call that names the LAG
in its first port attribute, and deleted with the first router interface removed from
the LAG. `LagState` says that the entry leads to a router interface on the LAG
whenever there is one; the two conditions `RifCreateClean` and `RifRemoveClean` say
when a call leaves it so.

* `lagRifMap_of_run` — the map agrees with the tree in every state reached.
-/

namespace OpxSai

open Fib
variable {s : Fib} {attr_list : List RifAttr}

/-! ## What tree and map do not see -/

/-- Ports and virtual routers may have changed, router interfaces and map have not, and the
log has grown. -/
structure RifFrame (s t : Fib) : Prop where
  rifs : t.router_interface_tree = s.router_interface_tree
  map : t.sai_map = s.sai_map
  vrfs : ∀ v, (t.vrf v).isSome = (s.vrf v).isSome
  log : s.npu_log <+: t.npu_log

namespace RifFrame

variable {t u : Fib}

theorem refl (s) : RifFrame s s := ⟨rfl, rfl, fun _ => rfl, List.prefix_refl _⟩

theorem trans (h : RifFrame s t) (k : RifFrame t u) : RifFrame s u :=
  ⟨k.rifs.trans h.rifs, k.map.trans h.map, fun v => (k.vrfs v).trans (h.vrfs v),
    h.log.trans k.log⟩

theorem call (env) (c) (s) : RifFrame s (s.call env c).2 :=
  ⟨rfl, rfl, fun _ => rfl, List.prefix_append _ _⟩

theorem rif (h : RifFrame s t) (id) : t.rif id = s.rif id := by
  unfold Fib.rif
  rw [h.rifs]

theorem rifIdFromLagId (h : RifFrame s t) (lag_id) :
    getRifIdFromLagId lag_id t = getRifIdFromLagId lag_id s := by
  unfold getRifIdFromLagId
  rw [h.map]

end RifFrame

section Frame

variable (env : Env)

variable (list : List Oid) (rif : Rif) (is_set : Bool) (i : Nat)

def ExtCall.aboutPorts : ExtCall → Bool
  | .portForwardModeInfo .. => true
  | .lagPortCountGet .. => true
  | .lagPortListGet .. => true
  | _ => false

/-- `t` comes from `s` by calls about ports and writes of the forwarding mode. -/
inductive PortWrites (env : Env) : Fib → Fib → Prop
  | refl (s : Fib) : PortWrites env s s
  | trans {s t u : Fib} (h : PortWrites env s t) (k : PortWrites env t u) : PortWrites env s u
  | call {c : ExtCall} (hc : c.aboutPorts = true) (s : Fib) : PortWrites env s (s.call env c).2
  | mode (m : Oid → PortFwdMode) (s : Fib) : PortWrites env s { s with port_fwd_mode := m }

theorem PortWrites.andThen {x} {k : Fib → Status × Fib}
    (hx : PortWrites env s x.2) (hk : ∀ t, PortWrites env t (k t).2) :
    PortWrites env s (Fib.andThen x k).2 :=
  andThen_keeps (P := fun t => PortWrites env s t) hx fun h => h.trans (hk _)

theorem portRoutingModeUpdate_writes (clnup : Bool) (p)
    (s) : PortWrites env s (portRoutingModeUpdate env is_set i clnup p s).2 := by
  have hwrite : ∀ mode t, PortWrites env t (portFwdModeWrite env p i mode clnup t).2 := by
    intro mode t
    unfold portFwdModeWrite
    simp only
    split
    · exact .trans (.call rfl t) (.mode _ _)
    · exact .call rfl t
  unfold portRoutingModeUpdate
  split
  · refine PortWrites.andThen env (.call rfl s) fun t => ?_
    split
    · exact .refl t
    · exact hwrite .routing t
  refine PortWrites.andThen env (.call rfl s) fun t => ?_
  split
  · exact .refl t
  · exact hwrite .unknown t

theorem portListUpdateFrom_writes (list) (s) :
    PortWrites env s (portListUpdateFrom env is_set i list s).2.2 := by
  induction list generalizing i s with
  | nil => exact .refl s
  | cons p list ih =>
    have hstep := portRoutingModeUpdate_writes env is_set i false p s
    unfold portListUpdateFrom
    split
    next t heq =>
      rw [heq] at hstep
      exact hstep.trans (ih (i + 1) t)
    rename_i status t _ heq
    rw [heq] at hstep
    exact hstep

theorem portListRoutingModeUpdate_writes (s) :
    PortWrites env s (portListRoutingModeUpdate env list is_set s).2 := by
  have hfold : ∀ (l : List (Oid × Nat)) (t : Fib), PortWrites env t (l.foldl
      (fun s p => (portRoutingModeUpdate env (!is_set) p.2 true p.1 s).2) t) := by
    intro l
    induction l with
    | nil => intro t; exact .refl t
    | cons p l ih =>
      intro t
      rw [List.foldl_cons]
      exact (portRoutingModeUpdate_writes env (!is_set) p.2 true p.1 t).trans (ih _)
  have hlist := portListUpdateFrom_writes env is_set 0 list s
  unfold portListRoutingModeUpdate
  simp only
  split
  · exact hlist
  · exact hlist.trans (hfold _ _)

theorem rifRoutingConfigUpdate_writes (s) :
    PortWrites env s (rifRoutingConfigUpdate env rif is_set s).2 := by
  unfold rifRoutingConfigUpdate
  split
  · exact .refl s
  split
  · refine PortWrites.andThen env (.call rfl s) fun t => ?_
    split
    · exact .refl t
    · exact PortWrites.andThen env (.call rfl t) fun u =>
        portListRoutingModeUpdate_writes env _ _ u
  · exact portListRoutingModeUpdate_writes env _ _ s

variable {env} in

theorem PortWrites.rifFrame {t} (h : PortWrites env s t) : RifFrame s t := by
  induction h with
  | refl s => exact .refl s
  | trans _ _ hst htu => exact hst.trans htu
  | call _ s => exact .call env _ s
  | mode m s => exact ⟨rfl, rfl, fun _ => rfl, List.prefix_refl _⟩

theorem rifRoutingConfigUpdate_rifFrame (s) :
    RifFrame s (rifRoutingConfigUpdate env rif is_set s).2 :=
  (rifRoutingConfigUpdate_writes env rif _ s).rifFrame

omit env in
theorem vrfRifListUpdate_rifFrame (rif) (is_add : Bool) (s) :
    RifFrame s (vrfRifListUpdate rif is_add s).2 := by
  unfold vrfRifListUpdate
  split
  · exact .refl s
  refine ⟨rfl, rfl, fun v => ?_, List.prefix_refl _⟩
  show (if v = rif.vrf_id then (s.vrf v).map _ else s.vrf v).isSome = (s.vrf v).isSome
  split
  · rw [Option.isSome_map]
  · rfl

theorem rifFreeResources_rifFrame (in_npu in_vrf_list routing_cfg : Bool) (s) :
    RifFrame s (rifFreeResources env rif in_npu in_vrf_list routing_cfg s) := by
  unfold rifFreeResources
  have hnpu : RifFrame s (if in_npu then (s.call env (.rifRemove rif)).2 else s) := by
    split
    · exact .call env _ s
    · exact .refl s
  simp only
  generalize (if in_npu then (s.call env (.rifRemove rif)).2 else s) = t at hnpu ⊢
  have hvrf : RifFrame s (if in_vrf_list then (vrfRifListUpdate rif false t).2 else t) := by
    split
    · exact hnpu.trans (vrfRifListUpdate_rifFrame rif _ t)
    · exact hnpu
  generalize (if in_vrf_list then (vrfRifListUpdate rif false t).2 else t) = u at hvrf ⊢
  split
  · exact hvrf.trans (rifRoutingConfigUpdate_rifFrame env rif _ u)
  · exact hvrf

end Frame

/-! ## When a create call succeeds -/

def PortModesReadable (env : Env) : Nat → List Oid → Prop
  | _, [] => True
  | index, port_id :: list =>
    env.status (.portForwardModeInfo port_id index true false false) = .success ∧
      PortModesReadable env (index + 1) list

def RoutingConfigurable (env : Env) (rif : Rif) : Prop :=
  rif.type = .vlan ∨ rif.type = .loopback ∨
    if rif.attachment.type = .lag then
      env.status (.lagPortCountGet rif.attachment true) = .success ∧
        (env.lag_ports rif.attachment = [] ∨
          env.status (.lagPortListGet rif.attachment true) = .success ∧
            PortModesReadable env 0 (env.lag_ports rif.attachment))
    else PortModesReadable env 0 [rif.attachment]

def RifRequestTaken (env : Env) (attr_list : List RifAttr) : Prop :=
  fibRifMandatoryAttrCount ≤ attr_list.length ∧ attr_list.length ≤ fibRifMaxAttrCount ∧
    env.avail .rifNode = true

/-- The request makes the router interface `rif`, which has no id yet. -/
structure RifCreatable (env : Env) (attr_list : List RifAttr) (s : Fib) (rif : Rif) : Prop where
  taken : RifRequestTaken env attr_list
  parse : rifAttributesParse env attr_list (rifAttributesInit env) s = .ok rif
  config : RoutingConfigurable env rif
  npu : env.status (.rifCreate rif) = .success
  new : s.rif (uoidCreate .routerInterface env.hw_id) = none
  tree : env.avail .rifTree = true

section Create

variable {env : Env}

variable (env) in

theorem portRoutingModeUpdate_set_status (i : Nat) (p) (s) :
    (portRoutingModeUpdate env true i false p s).1 =
      env.status (.portForwardModeInfo p i true false false) := by
  unfold portRoutingModeUpdate
  rw [if_pos rfl]
  unfold portRoutingModeSet
  by_cases hok : env.status (.portForwardModeInfo p i true false false) = .success
  · rw [andThen_of_success (x := s.call env _) hok, hok]
    split <;> rfl
  · rw [andThen_of_failure (x := s.call env _) hok]
    rfl

theorem portListUpdateFrom_set_status {i : Nat} {list} {s} :
    (portListUpdateFrom env true i list s).2.1 = .success ↔ PortModesReadable env i list := by
  induction list generalizing i s with
  | nil => simp [portListUpdateFrom, PortModesReadable]
  | cons p list ih =>
    have hstatus := portRoutingModeUpdate_set_status env i p s
    unfold portListUpdateFrom PortModesReadable
    split
    next t heq =>
      rw [heq] at hstatus
      rw [ih, ← hstatus]
      simp
    rename_i status t hne heq
    rw [heq] at hstatus
    rw [← hstatus]
    simp only
    constructor
    · intro hok
      exact (hne hok).elim
    · intro hok
      exact hok.1

theorem portListRoutingModeUpdate_set_status (list) (s) :
    (portListRoutingModeUpdate env list true s).1 = .success ↔ PortModesReadable env 0 list := by
  rw [← portListUpdateFrom_set_status]
  unfold portListRoutingModeUpdate
  simp only
  split
  · rfl
  · rfl

variable (env) in

theorem rifRoutingConfigUpdate_set_status (rif) (s) :
    (rifRoutingConfigUpdate env rif true s).1 = .success ↔ RoutingConfigurable env rif := by
  unfold rifRoutingConfigUpdate RoutingConfigurable
  split
  next htype =>
    rcases htype with htype | htype
    · simp [htype]
    · simp [htype]
  rename_i htype
  obtain ⟨hvlan, hloop⟩ := not_or.mp htype
  simp only [hvlan, hloop, false_or]
  split
  · by_cases hcount : env.status (.lagPortCountGet rif.attachment true) = .success
    · rw [andThen_of_success (x := s.call env _) hcount]
      split
      next hnil => simp [hcount, hnil]
      rename_i hne
      by_cases hlist : env.status (.lagPortListGet rif.attachment true) = .success
      · rw [andThen_of_success (x := Fib.call env _ _) hlist,
          portListRoutingModeUpdate_set_status]
        simp [hcount, hne, hlist]
      · rw [andThen_of_failure (x := Fib.call env _ _) hlist]
        simp [hne, hlist, call]
    · rw [andThen_of_failure (x := s.call env _) hcount]
      simp [hcount, call]
  · exact portListRoutingModeUpdate_set_status _ s

theorem rifAttributesParse_vrf {rif₀ rif} (h : rifAttributesParse env attr_list rif₀ s = .ok rif) :
    (s.vrf rif.vrf_id).isSome := by
  have hset : ∀ (info : RifInfo) (attr : RifAttr) (info' : RifInfo),
      (info.is_vrf_set = true → (s.vrf info.rif.vrf_id).isSome) →
      rifAttrSet env s info attr = .ok info' →
      info'.is_vrf_set = true → (s.vrf info'.rif.vrf_id).isSome := by
    intro info attr info' hinfo hstep
    unfold rifAttrSet at hstep
    cases hfill : rifAttrFill env s info attr with
    | error status => simp [hfill] at hstep
    | ok filled =>
      rw [hfill] at hstep
      simp only at hstep
      split at hstep
      · simp at hstep
      cases hstep
      unfold rifAttrFill rifVrfAttrSet rifTypeAttrSet rifPortIdAttrSet rifVlanIdAttrSet
        rifMacAttrSet at hfill
      cases attr <;> simp only at hfill
      case virtualRouterId oid =>
        split at hfill
        · simp at hfill
        split at hfill
        · simp at hfill
        rename_i hthere
        cases hfill
        intro _
        exact Option.isSome_iff_ne_none.mpr (by simpa using hthere)
      case type s32 =>
        split at hfill
        · simp at hfill
        split at hfill
        · simp at hfill
        split at hfill
        · simp at hfill
        · cases hfill
          exact hinfo
      case portId oid =>
        split at hfill
        · simp at hfill
        split at hfill
        · simp at hfill
        split at hfill
        · simp at hfill
        · cases hfill
          exact hinfo
      case vlanId oid =>
        split at hfill
        · simp at hfill
        split at hfill
        · simp at hfill
        · cases hfill
          exact hinfo
      case srcMacAddress mac =>
        split at hfill
        · simp at hfill
        · cases hfill
          exact hinfo
      case v4McastEnable => simp at hfill
      case v6McastEnable => simp at hfill
      case other id => simp at hfill
      all_goals
        cases hfill
        exact hinfo
  unfold rifAttributesParse at h
  split at h
  · simp at h
  rename_i info hparse
  have hkept := attrListParse_keeps hset (fun hno => by simp at hno) hparse
  split at h
  · simp at h
  rename_i hmandatory
  simp only at h
  split at h
  · simp at h
  cases h
  have hvrf : info.is_vrf_set = true := by
    by_contra hno
    exact hmandatory (by simp [hno])
  have hthere := hkept hvrf
  unfold rifInheritVrfAttributes
  split
  · exact hthere
  · exact hthere

theorem rifAttrFill_error {info} {attr} :
    rifAttrFill env s info attr ≠ .error .success := by
  intro h
  unfold rifAttrFill rifVrfAttrSet rifTypeAttrSet rifPortIdAttrSet rifVlanIdAttrSet
    rifMacAttrSet at h
  cases attr <;> simp only at h
  case virtualRouterId oid =>
    split at h
    · simp at h
    · split at h <;> simp at h
  case type s32 =>
    split at h
    · simp at h
    split at h
    · simp at h
    · split at h <;> simp at h
  case portId oid =>
    split at h
    · simp at h
    split at h
    · simp at h
    · split at h <;> simp at h
  case vlanId oid =>
    split at h
    · simp at h
    · split at h <;> simp at h
  case srcMacAddress mac => split at h <;> simp at h
  all_goals simp at h

theorem rifAttributesParse_error {rif₀} {status}
    (h : rifAttributesParse env attr_list rif₀ s = .error status) : status ≠ .success := by
  have hset : ∀ (info : RifInfo) (attr : RifAttr), rifAttrSet env s info attr ≠ .error .success := by
    intro info attr hstep
    unfold rifAttrSet at hstep
    split at hstep
    next rc hfill =>
      cases hstep
      exact rifAttrFill_error hfill
    simp only at hstep
    split at hstep
    next hrc => exact hrc (Except.error.inj hstep)
    · simp at hstep
  unfold rifAttributesParse at h
  split at h
  next rc hparse =>
    cases h
    exact attrListParse_error hset hparse
  split at h
  · cases h
    simp
  simp only at h
  split at h
  · cases h
    simp
  · simp at h

abbrev Rif.named (env : Env) (rif : Rif) : Rif :=
  { rif with rif_id := uoidCreate .routerInterface env.hw_id }

def rifListed (env : Env) (rif : Rif) (s : Fib) : Fib :=
  (vrfRifListUpdate (rif.named env) true
    ((rifRoutingConfigUpdate env rif true s).2.call env (.rifCreate rif)).2).2

/-- **All that the create of a router interface does** with what its attributes make, by where it
stops. -/
inductive RifCreates (env : Env) (rif_obj_id : Oid) (rif : Rif) (s : Fib) : (Status × Fib) × Oid → Prop where
  | unrouted (hconfig : ¬ RoutingConfigurable env rif)
      (hrc : (rifRoutingConfigUpdate env rif true s).1 ≠ .success) :
      RifCreates env rif_obj_id rif s (rifRoutingConfigUpdate env rif true s, rif_obj_id)
  | refused (hconfig : RoutingConfigurable env rif) (hnpu : env.status (.rifCreate rif) ≠ .success) :
      RifCreates env rif_obj_id rif s ((env.status (.rifCreate rif),
        rifFreeResources env rif false false true
          ((rifRoutingConfigUpdate env rif true s).2.call env (.rifCreate rif)).2), rif_obj_id)
  | unlisted (hconfig : RoutingConfigurable env rif)
      (hfull : ¬ (s.rif (rif.named env).rif_id = none ∧ env.avail .rifTree = true)) :
      RifCreates env rif_obj_id rif s ((.failure,
        rifFreeResources env (rif.named env) true true true (rifListed env rif s)), (rif.named env).rif_id)
  | made (hconfig : RoutingConfigurable env rif) (hnpu : env.status (.rifCreate rif) = .success)
      (hnew : s.rif (rif.named env).rif_id = none) (htree : env.avail .rifTree = true) :
      RifCreates env rif_obj_id rif s ((.success, { rifListed env rif s with
        router_interface_tree := (rifListed env rif s).router_interface_tree ++ [rif.named env] }),
        (rif.named env).rif_id)

theorem rifListed_rifFrame (env) (rif) (s) : RifFrame s (rifListed env rif s) :=
  ((rifRoutingConfigUpdate_rifFrame env rif _ s).trans (.call env _ _)).trans
    (vrfRifListUpdate_rifFrame _ _ _)

theorem rifCreateObject_does (rif_obj_id) {rif}
    (hparse : rifAttributesParse env attr_list (rifAttributesInit env) s = .ok rif) :
    RifCreates env rif_obj_id rif s (rifCreateObject env rif_obj_id attr_list s) := by
  have hconfig := rifRoutingConfigUpdate_set_status env rif s
  unfold rifCreateObject
  rw [hparse]
  dsimp only
  by_cases hok : (rifRoutingConfigUpdate env rif true s).1 = .success
  · rw [if_ok hok]
    have hready := hconfig.mp hok
    by_cases hnpu : env.status (.rifCreate rif) = .success
    · rw [if_ok (by exact hnpu)]
      have hlist := rifListed_rifFrame env rif s
      have hlistok : (vrfRifListUpdate (rif.named env) true
          ((rifRoutingConfigUpdate env rif true s).2.call env (.rifCreate rif)).2).1 = .success := by
        have hthere := rifAttributesParse_vrf hparse
        rw [← ((rifRoutingConfigUpdate_rifFrame env rif _ s).trans
          (.call env _ _)).vrfs] at hthere
        obtain ⟨v, hv⟩ := Option.isSome_iff_exists.mp hthere
        unfold vrfRifListUpdate
        dsimp only
        rw [hv]
      have hfound : (rifListed env rif s).rif (rif.named env).rif_id = s.rif (rif.named env).rif_id := by
        rw [hlist.rif]
      change RifCreates env rif_obj_id rif s (rifCreateNode env (rif.named env)
        ((rifRoutingConfigUpdate env rif true s).2.call env (.rifCreate rif)).2, (rif.named env).rif_id)
      unfold rifCreateNode
      dsimp only
      rw [if_ok hlistok]
      unfold rifTreeInsert
      unfold rifListed at hfound
      rw [hfound]
      by_cases hins : s.rif (rif.named env).rif_id = none ∧ env.avail .rifTree = true
      · rw [if_pos ⟨by rw [hins.1]; rfl, hins.2⟩]
        exact .made hready hnpu hins.1 hins.2
      · rw [if_neg fun hand => hins ⟨by simpa using hand.1, hand.2⟩]
        exact .unlisted hready hins
    · rw [if_pos (by exact hnpu)]
      exact .refused hready hnpu
  · rw [if_pos hok]
    exact .unrouted (fun hready => hok (hconfig.mpr hready)) hok

theorem rifCreateObject_cases (rif_obj_id) (attr_list)
    (htaken : RifRequestTaken env attr_list) :
    (∃ rif, RifCreatable env attr_list s rif ∧
      (rifCreateObject env rif_obj_id attr_list s).1.1 = .success ∧
      (rifCreateObject env rif_obj_id attr_list s).1.2.router_interface_tree =
        s.router_interface_tree ++ [{ rif with rif_id := uoidCreate .routerInterface env.hw_id }] ∧
      (rifCreateObject env rif_obj_id attr_list s).1.2.sai_map = s.sai_map ∧
      (rifCreateObject env rif_obj_id attr_list s).2 = uoidCreate .routerInterface env.hw_id) ∨
    ((∀ rif, ¬ RifCreatable env attr_list s rif) ∧
      (rifCreateObject env rif_obj_id attr_list s).1.1 ≠ .success ∧
      (rifCreateObject env rif_obj_id attr_list s).1.2.router_interface_tree =
        s.router_interface_tree ∧
      (rifCreateObject env rif_obj_id attr_list s).1.2.sai_map = s.sai_map) := by
  cases hparse : rifAttributesParse env attr_list (rifAttributesInit env) s with
  | error status =>
    unfold rifCreateObject
    rw [hparse]
    exact .inr ⟨fun rif hc => by simp [hc.parse] at hparse, rifAttributesParse_error hparse, rfl, rfl⟩
  | ok rif =>
    have hdoes := rifCreateObject_does rif_obj_id hparse
    generalize rifCreateObject _ _ _ s = x at hdoes ⊢
    have hunique : ∀ rif', RifCreatable env attr_list s rif' → rif' = rif := fun rif' hc =>
      Except.ok.inj (hc.parse.symm.trans hparse)
    have hframe := rifRoutingConfigUpdate_rifFrame env rif true s
    have hlist := rifListed_rifFrame env rif s
    cases hdoes with
    | unrouted hconfig hrc =>
      exact .inr ⟨fun rif' hc => hconfig (hunique rif' hc ▸ hc.config), hrc, hframe.rifs, hframe.map⟩
    | refused hconfig hnpu =>
      have hfree := (hframe.trans (.call env (.rifCreate rif) _)).trans
        (rifFreeResources_rifFrame env rif false false true _)
      exact .inr ⟨fun rif' hc => hnpu (hunique rif' hc ▸ hc.npu), hnpu, hfree.rifs, hfree.map⟩
    | unlisted hconfig hfull =>
      have hfree := hlist.trans (rifFreeResources_rifFrame env (rif.named env) true true true _)
      exact .inr ⟨fun rif' hc => hfull ⟨hc.new, hc.tree⟩, by simp, hfree.rifs, hfree.map⟩
    | made hconfig hnpu hnew htree =>
      exact .inl ⟨rif, ⟨htaken, hparse, hconfig, hnpu, hnew, htree⟩, rfl,
        by rw [hlist.rifs], hlist.map, rfl⟩

/-- The create call writes the map entry of the LAG. -/
def LagMappingMade (env : Env) (attr_list : List RifAttr) (lag_id : Oid) : Prop :=
  RifRequestTaken env attr_list ∧ getLagIdFromAttr attr_list = some lag_id ∧
    env.avail .lagRifMap = true

theorem getRifIdFromLagId_insert {lag_id rif_id j} (hmap : env.avail .lagRifMap = true) :
    getRifIdFromLagId j (lagRifMappingInsert env lag_id rif_id s).2 =
      if j = lag_id then (getRifIdFromLagId lag_id s).or (some rif_id)
      else getRifIdFromLagId j s := by
  unfold lagRifMappingInsert saiMapInsert
  rw [if_pos hmap]
  unfold getRifIdFromLagId MultiMap.first
  simp only
  rw [MultiMap.values_insert]
  by_cases hj : j = lag_id
  · rw [if_pos (by rw [hj]), if_pos hj]
    cases s.sai_map.values (lagRifKey lag_id) <;> rfl
  · have hkey : lagRifKey j ≠ lagRifKey lag_id := fun heq => hj (congrArg MapKey.id1 heq)
    rw [if_neg hkey, if_neg hj]

variable (env) in

/-- **All that a create call does** to tree and map: the router interface joins the tree, or
nothing joins it, and the map entry is made in either case. -/
theorem routerInterfaceCreate_cases (rif_obj_id) (attr_list) :
    ∃ rif_id, ((∃ rif, RifCreatable env attr_list s rif ∧
        (routerInterfaceCreate env rif_obj_id attr_list s).1.1 = .success ∧
        (routerInterfaceCreate env rif_obj_id attr_list s).1.2.router_interface_tree =
          s.router_interface_tree ++ [{ rif with rif_id := rif_id }] ∧
        rif_id = uoidCreate .routerInterface env.hw_id) ∨
      ((∀ rif, ¬ RifCreatable env attr_list s rif) ∧
        (routerInterfaceCreate env rif_obj_id attr_list s).1.1 ≠ .success ∧
        (routerInterfaceCreate env rif_obj_id attr_list s).1.2.router_interface_tree =
          s.router_interface_tree)) ∧
    ∀ lag_id, (LagMappingMade env attr_list lag_id →
        getRifIdFromLagId lag_id (routerInterfaceCreate env rif_obj_id attr_list s).1.2 =
          (getRifIdFromLagId lag_id s).or (some rif_id)) ∧
      (¬ LagMappingMade env attr_list lag_id →
        getRifIdFromLagId lag_id (routerInterfaceCreate env rif_obj_id attr_list s).1.2 =
          getRifIdFromLagId lag_id s) := by
  by_cases htaken : RifRequestTaken env attr_list
  · have hcases := rifCreateObject_cases (s := s) rif_obj_id attr_list htaken
    obtain ⟨hmin, hmax, hnode⟩ := htaken
    refine ⟨(rifCreateObject env rif_obj_id attr_list s).2, ?_⟩
    unfold routerInterfaceCreate
    rw [if_neg (by omega), if_neg (by simp [hnode])]
    simp only
    have hmap : (rifCreateObject env rif_obj_id attr_list s).1.2.sai_map = s.sai_map := by
      rcases hcases with ⟨_, _, _, _, hmap, _⟩ | ⟨_, _, _, hmap⟩
      · exact hmap
      · exact hmap
    have hread : ∀ j, getRifIdFromLagId j (rifCreateObject env rif_obj_id attr_list s).1.2 =
        getRifIdFromLagId j s := fun j => by
      unfold getRifIdFromLagId
      rw [hmap]
    generalize rifCreateObject _ _ _ s = x at hcases hread ⊢
    have hinsert : ∀ lag_id, (lagRifMappingInsert env lag_id x.2 x.1.2).2.router_interface_tree =
        x.1.2.router_interface_tree := by
      intro lag_id
      unfold lagRifMappingInsert saiMapInsert
      split <;> rfl
    refine ⟨?_, fun lag_id => ⟨fun hmade => ?_, fun hnot => ?_⟩⟩
    · rcases hcases with ⟨rif, hc, hok, htree, -, hid⟩ | ⟨hno, hfail, htree, -⟩
      · left
        refine ⟨rif, hc, ?_⟩
        rw [← hid] at htree
        split
        · exact ⟨hok, htree, hid⟩
        · exact ⟨hok, (hinsert _).trans htree, hid⟩
      right
      refine ⟨hno, ?_⟩
      split
      · exact ⟨hfail, htree⟩
      · exact ⟨hfail, (hinsert _).trans htree⟩
    · obtain ⟨-, hlag, havail⟩ := hmade
      rw [hlag]
      simp only
      rw [getRifIdFromLagId_insert havail, if_pos rfl, hread]
    · split
      · exact hread lag_id
      rename_i lag hlag
      by_cases havail : env.avail .lagRifMap = true
      · rw [getRifIdFromLagId_insert havail]
        have hne : ¬ lag_id = lag := by
          rintro rfl
          exact hnot ⟨⟨hmin, hmax, hnode⟩, hlag, havail⟩
        rw [if_neg hne]
        exact hread lag_id
      unfold lagRifMappingInsert saiMapInsert
      rw [if_neg havail]
      exact hread lag_id
  · refine ⟨rif_obj_id, ?_⟩
    have hout : (routerInterfaceCreate env rif_obj_id attr_list s).1.1 ≠ .success ∧
        (routerInterfaceCreate env rif_obj_id attr_list s).1.2 = s := by
      unfold routerInterfaceCreate
      by_cases hcount : attr_list.length < fibRifMandatoryAttrCount ∨
          fibRifMaxAttrCount < attr_list.length
      · rw [if_pos hcount]
        simp
      · rw [if_neg hcount, if_pos]
        · simp
        by_contra hnode
        rw [not_or] at hcount
        exact htaken ⟨by omega, by omega, by simpa using hnode⟩
    refine ⟨.inr ⟨fun rif hc => htaken hc.taken, hout.1, by rw [hout.2]⟩, fun lag_id =>
      ⟨fun hmade => absurd hmade.1 htaken, fun _ => by rw [hout.2]⟩⟩

end Create

/-! ## The invariant -/

def Rif.OnLag (lag_id : Oid) (rif : Rif) : Prop :=
  rifIsAttachmentLag rif = true ∧ rif.attachment = lag_id

instance (lag_id : Oid) (rif : Rif) : Decidable (rif.OnLag lag_id) :=
  inferInstanceAs (Decidable (_ ∧ _))

/-- The map leads from a LAG to a router interface on it, whenever there is one. -/
structure LagState (s : Fib) : Prop where
  ids : (s.router_interface_tree.map Rif.rif_id).Nodup
  typed : ∀ rif ∈ s.router_interface_tree, rif.rif_id.type = .routerInterface
  sound : ∀ lag_id id, getRifIdFromLagId lag_id s = some id →
    ∃ rif ∈ s.router_interface_tree, rif.rif_id = id ∧ rif.OnLag lag_id
  found : ∀ lag_id, ∀ rif ∈ s.router_interface_tree, rif.OnLag lag_id →
    ∃ id, getRifIdFromLagId lag_id s = some id

/-- A LAG without a router interface gets a map entry exactly when the call puts a router
interface on it. -/
def RifCreateClean (env : Env) (attr_list : List RifAttr) (s : Fib) : Prop :=
  ∀ lag_id, (∀ rif ∈ s.router_interface_tree, ¬ rif.OnLag lag_id) →
    (LagMappingMade env attr_list lag_id ↔
      ∃ rif, RifCreatable env attr_list s rif ∧ rif.OnLag lag_id)

/-- A router interface that can be removed is the only one on its LAG. -/
def RifRemoveClean (env : Env) (rif_id : Oid) (s : Fib) : Prop :=
  ∀ rif lag_id, s.rif rif_id = some rif → rif.ref_count = 0 →
    env.status (.rifRemove rif) = .success → rif.OnLag lag_id →
    ∀ other ∈ s.router_interface_tree, other.OnLag lag_id → other.rif_id = rif_id

section LagState

variable {env : Env}

theorem rif_eq_none {id} (h : s.rif id = none) :
    ∀ rif ∈ s.router_interface_tree, rif.rif_id ≠ id := by
  intro rif hrif
  have hnone := List.find?_eq_none.mp h rif hrif
  simpa using hnone

theorem routerInterfaceCreate_lag (h : LagState s) (rif_obj_id)
    (hclean : RifCreateClean env attr_list s) :
    LagState (routerInterfaceCreate env rif_obj_id attr_list s).1.2 := by
  obtain ⟨rif_id, htree, hmap⟩ := routerInterfaceCreate_cases env (s := s) rif_obj_id
    attr_list
  -- who was on a LAG is still there, and the map still leads there
  have hold : ∀ lag_id id, getRifIdFromLagId lag_id s = some id → getRifIdFromLagId lag_id
      (routerInterfaceCreate env rif_obj_id attr_list s).1.2 = some id := by
    intro lag_id id hid
    by_cases hmade : LagMappingMade env attr_list lag_id
    · rw [(hmap lag_id).1 hmade, hid]
      rfl
    · rw [(hmap lag_id).2 hmade, hid]
  generalize (routerInterfaceCreate _ _ _ s).1.2 = t at htree hmap hold ⊢
  have hempty : ∀ lag_id, getRifIdFromLagId lag_id s = none →
      ∀ rif ∈ s.router_interface_tree, ¬ rif.OnLag lag_id := by
    intro lag_id hnone rif hrif hon
    obtain ⟨id, hid⟩ := h.found _ rif hrif hon
    rw [hnone] at hid
    simp at hid
  rcases htree with ⟨rif, hc, -, htree, hid⟩ | ⟨hno, -, htree⟩
  · have hon : ∀ lag_id, Rif.OnLag lag_id { rif with rif_id := rif_id } ↔ rif.OnLag lag_id :=
      fun _ => Iff.rfl
    refine ⟨?_, fun r hr => ?_, fun lag_id id hget => ?_, fun lag_id r hr hr_on => ?_⟩
    · rw [htree, List.map_append, List.map_cons, List.map_nil, ← List.concat_eq_append]
      refine List.Nodup.concat (fun hmem => ?_) h.ids
      obtain ⟨r, hr, hrid⟩ := List.mem_map.mp hmem
      exact rif_eq_none hc.new r hr (hrid.trans hid)
    · rw [htree] at hr
      rcases List.mem_append.mp hr with hr | hr
      · exact h.typed r hr
      obtain rfl := List.mem_singleton.mp hr
      show rif_id.type = .routerInterface
      rw [hid]
      rfl
    · rw [htree]
      cases hs : getRifIdFromLagId lag_id s with
      | some id' =>
        rw [hold lag_id id' hs] at hget
        obtain rfl := Option.some.inj hget
        obtain ⟨r, hr, hrid, hr_on⟩ := h.sound _ id' hs
        exact ⟨r, List.mem_append_left _ hr, hrid, hr_on⟩
      | none =>
        have hiff := hclean lag_id (hempty lag_id hs)
        by_cases hmade : LagMappingMade env attr_list lag_id
        · rw [(hmap lag_id).1 hmade, hs] at hget
          obtain rfl : rif_id = id := Option.some.inj hget
          obtain ⟨rif', hc', hon'⟩ := hiff.mp hmade
          have hsame : rif' = rif := by
            have hparse := hc'.parse
            rw [hc.parse] at hparse
            exact (Except.ok.inj hparse).symm
          rw [hsame] at hon'
          exact ⟨_, List.mem_append_right _ List.mem_cons_self, rfl, (hon lag_id).mpr hon'⟩
        · rw [(hmap lag_id).2 hmade, hs] at hget
          simp at hget
    · rw [htree] at hr
      cases hs : getRifIdFromLagId lag_id s with
      | some id => exact ⟨id, hold lag_id id hs⟩
      | none =>
        rcases List.mem_append.mp hr with hr | hr
        · exact absurd hr_on (hempty lag_id hs r hr)
        obtain rfl := List.mem_singleton.mp hr
        have hmade := (hclean lag_id (hempty lag_id hs)).mpr ⟨rif, hc, (hon lag_id).mp hr_on⟩
        rw [(hmap lag_id).1 hmade, hs]
        exact ⟨rif_id, rfl⟩
  · have hnot : ∀ lag_id, getRifIdFromLagId lag_id s = none →
        ¬ LagMappingMade env attr_list lag_id := by
      intro lag_id hnone hmade
      obtain ⟨rif, hc, -⟩ := (hclean lag_id (hempty lag_id hnone)).mp hmade
      exact hno rif hc
    refine ⟨by rw [htree]; exact h.ids, fun r hr => h.typed r (by rw [← htree]; exact hr),
      fun lag_id id hget => ?_, fun lag_id r hr hr_on => ?_⟩
    · rw [htree]
      cases hs : getRifIdFromLagId lag_id s with
      | some id' =>
        rw [hold lag_id id' hs] at hget
        obtain rfl := Option.some.inj hget
        exact h.sound _ id' hs
      | none =>
        rw [(hmap lag_id).2 (hnot lag_id hs), hs] at hget
        simp at hget
    · rw [htree] at hr
      obtain ⟨id, hid⟩ := h.found _ r hr hr_on
      exact ⟨id, hold lag_id id hid⟩

variable (env) in

theorem rifRemoveNode_cases (rif) :
    ((rifRemoveNode env rif s).1 = .success ∧ rif.ref_count = 0 ∧
      env.status (.rifRemove rif) = .success ∧
      (rifRemoveNode env rif s).2.router_interface_tree =
        s.router_interface_tree.filter (fun r => r.rif_id ≠ rif.rif_id) ∧
      (rifRemoveNode env rif s).2.sai_map = s.sai_map) ∨
    ((rifRemoveNode env rif s).1 ≠ .success ∧ RifFrame s (rifRemoveNode env rif s).2) := by
  unfold rifRemoveNode
  by_cases href : rif.ref_count = 0
  · rw [if_neg (by simpa using href)]
    have hcall := RifFrame.call env (.rifRemove rif) s
    by_cases hnpu : env.status (.rifRemove rif) = .success
    · rw [andThen_of_success (x := s.call env _) hnpu]
      have hlist := hcall.trans (vrfRifListUpdate_rifFrame rif false _)
      simp only
      generalize (vrfRifListUpdate _ _ _).2 = t at hlist ⊢
      have hconfig := rifRoutingConfigUpdate_rifFrame env rif false (rifTreeRemove rif.rif_id t)
      refine .inl ⟨trivial, href, hnpu, ?_, hconfig.map.trans hlist.map⟩
      rw [hconfig.rifs]
      show t.router_interface_tree.filter _ = _
      rw [hlist.rifs]
    · rw [andThen_of_failure (x := s.call env _) hnpu]
      exact .inr ⟨hnpu, hcall⟩
  · rw [if_pos href]
    exact .inr ⟨by simp, .refl s⟩

theorem LagState.of_frame {t} (h : LagState s) (hframe : RifFrame s t) : LagState t := by
  refine ⟨?_, ?_, fun lag_id id => ?_, fun lag_id => ?_⟩
  · rw [hframe.rifs]
    exact h.ids
  · rw [hframe.rifs]
    exact h.typed
  · rw [hframe.rifs, hframe.rifIdFromLagId]
    exact h.sound _ id
  · rw [hframe.rifs, hframe.rifIdFromLagId]
    exact h.found _

theorem getRifIdFromLagId_remove (lag_id j) :
    getRifIdFromLagId j (lagRifMappingRemove lag_id s) =
      if j = lag_id then none else getRifIdFromLagId j s := by
  unfold getRifIdFromLagId lagRifMappingRemove MultiMap.first
  simp only
  rw [MultiMap.values_delete]
  by_cases hj : j = lag_id
  · simp [hj]
  · have hkey : lagRifKey j ≠ lagRifKey lag_id := fun heq => hj (congrArg MapKey.id1 heq)
    rw [if_neg hkey, if_neg hj]

theorem routerInterfaceRemove_lag (h : LagState s) {rif_id}
    (hclean : RifRemoveClean env rif_id s) :
    LagState (routerInterfaceRemove env rif_id s).2 := by
  unfold routerInterfaceRemove
  split
  · exact h
  split
  · exact h
  rename_i rif hrif
  have hid : rif.rif_id = rif_id := by simpa using List.find?_some hrif
  have hmem : rif ∈ s.router_interface_tree := List.mem_of_find?_eq_some hrif
  rcases rifRemoveNode_cases env (s := s) rif with
    ⟨hok, href, hnpu, htree, hmap⟩ | ⟨hfail, hframe⟩
  · rw [andThen_of_success hok]
    generalize (rifRemoveNode _ _ s).2 = t at htree hmap ⊢
    have hget : ∀ lag_id, getRifIdFromLagId lag_id t = getRifIdFromLagId lag_id s :=
      fun lag_id => by
        unfold getRifIdFromLagId
        rw [hmap]
    -- the map without the LAG that has lost its only router interface
    have hremoved : ∀ u : Fib, u.router_interface_tree = t.router_interface_tree →
        (∀ lag_id, rif.OnLag lag_id → getRifIdFromLagId lag_id u = none) →
        (∀ lag_id, ¬ rif.OnLag lag_id → getRifIdFromLagId lag_id u =
          getRifIdFromLagId lag_id s) → LagState u := by
      intro u hutree hon hoff
      have hin : ∀ r, r ∈ u.router_interface_tree ↔
          r ∈ s.router_interface_tree ∧ r.rif_id ≠ rif_id := fun r => by
        rw [hutree, htree, List.mem_filter, hid]
        simp
      refine ⟨?_, fun r hr => h.typed r ((hin r).mp hr).1, fun lag_id id hu => ?_,
        fun lag_id r hr hr_on => ?_⟩
      · rw [hutree, htree]
        exact h.ids.sublist (List.filter_sublist.map Rif.rif_id)
      · by_cases hrif_on : rif.OnLag lag_id
        · rw [hon lag_id hrif_on] at hu
          simp at hu
        rw [hoff lag_id hrif_on] at hu
        obtain ⟨r, hr, hrid, hr_on⟩ := h.sound _ id hu
        refine ⟨r, (hin r).mpr ⟨hr, fun hsame => hrif_on ?_⟩, hrid, hr_on⟩
        have heq : r = rif :=
          List.inj_on_of_nodup_map h.ids hr hmem (hsame.trans hid.symm)
        rw [← heq]
        exact hr_on
      · obtain ⟨hr, hne⟩ := (hin r).mp hr
        by_cases hrif_on : rif.OnLag lag_id
        · exact absurd (hclean rif lag_id hrif href hnpu hrif_on r hr hr_on) hne
        · rw [hoff lag_id hrif_on]
          exact h.found _ r hr hr_on
    simp only
    split
    next hlag =>
      refine hremoved _ rfl (fun lag_id hon => ?_) (fun lag_id hoff => ?_)
      · rw [getRifIdFromLagId_remove, if_pos hon.2.symm]
      · have hne : ¬ lag_id = rif.attachment := fun heq => hoff ⟨hlag, heq.symm⟩
        rw [getRifIdFromLagId_remove, if_neg hne, hget]
    next hlag =>
      exact hremoved t rfl (fun lag_id hon => absurd hon.1 hlag) fun lag_id _ => hget lag_id
  · rw [andThen_of_failure hfail]
    exact h.of_frame hframe

end LagState

/-! ## Runs -/

inductive RifCall : Call → Fib → Prop where
  | create {env : Env} {rif_obj_id : Oid} {attr_list : List RifAttr} {s : Fib}
      (hclean : RifCreateClean env attr_list s) :
      RifCall ⟨env, .routerInterfaceCreate rif_obj_id attr_list⟩ s
  | remove {env : Env} {rif_id : Oid} {s : Fib} (hclean : RifRemoveClean env rif_id s) :
      RifCall ⟨env, .routerInterfaceRemove rif_id⟩ s

theorem LagState.step {c} (hc : RifCall c s) (h : LagState s) :
    LagState (fibStep c s) := by
  cases hc with
  | create hclean => exact routerInterfaceCreate_lag h _ hclean
  | remove hclean => exact routerInterfaceRemove_lag h hclean

/-- There is no router interface, and nothing in the map about any. -/
structure NoRifs (s : Fib) : Prop where
  tree : s.router_interface_tree = []
  map : ∀ lag_id, getRifIdFromLagId lag_id s = none

theorem NoRifs.lagState (h : NoRifs s) : LagState s := by
  refine ⟨?_, ?_, fun lag_id id hid => ?_, ?_⟩
  · rw [h.tree]
    exact List.nodup_nil
  · simp [h.tree]
  · rw [h.map _] at hid
    simp at hid
  · simp [h.tree]

/-- The map agrees with the tree, and a change of the ports of a LAG goes to a router interface
on the LAG if there is one, and nowhere else. -/
structure LagRifMap (s : Fib) : Prop where
  found : ∀ lag_id, (∃ id, getRifIdFromLagId lag_id s = some id) ↔
    ∃ rif ∈ s.router_interface_tree, rif.OnLag lag_id
  sound : ∀ lag_id id, getRifIdFromLagId lag_id s = some id →
    ∃ rif, s.rif id = some rif ∧ rif.OnLag lag_id
  update : ∀ env lag_id port_list is_add, port_list ≠ [] →
    (∃ rif ∈ s.router_interface_tree, rif.OnLag lag_id) →
    ∃ rif ∈ s.router_interface_tree, rif.OnLag lag_id ∧
      s.npu_log ++ [(.rifLagMemberUpdate rif port_list is_add,
        env.status (.rifLagMemberUpdate rif port_list is_add))] <+:
          (rifLagCallback env lag_id port_list is_add s).2.npu_log
  silent : ∀ env lag_id port_list is_add,
    (∀ rif ∈ s.router_interface_tree, ¬ rif.OnLag lag_id) →
    rifLagCallback env lag_id port_list is_add s = (.success, s)

theorem LagState.lagRifMap (h : LagState s) : LagRifMap s := by
  have hfind : ∀ rif ∈ s.router_interface_tree, s.rif rif.rif_id = some rif := by
    intro rif hrif
    obtain ⟨r, hr⟩ := Option.isSome_iff_exists.mp
      (List.find?_isSome.mpr ⟨rif, hrif, by simp⟩ :
        (s.router_interface_tree.find? fun r => r.rif_id = rif.rif_id).isSome)
    have hsame : r = rif := List.inj_on_of_nodup_map h.ids (List.mem_of_find?_eq_some hr) hrif
      (by simpa using List.find?_some hr)
    rw [← hsame] at hr ⊢
    exact hr
  have hsound : ∀ lag_id id, getRifIdFromLagId lag_id s = some id →
      ∃ rif ∈ s.router_interface_tree, s.rif id = some rif ∧ rif.OnLag lag_id := by
    intro lag_id id hid
    obtain ⟨rif, hrif, rfl, hon⟩ := h.sound _ id hid
    exact ⟨rif, hrif, hfind rif hrif, hon⟩
  refine ⟨fun lag_id => ⟨?_, ?_⟩, fun lag_id id hid => ?_,
    fun env lag_id port_list is_add hports => ?_, fun env lag_id port_list is_add hno => ?_⟩
  · rintro ⟨id, hid⟩
    obtain ⟨rif, hrif, -, hon⟩ := hsound lag_id id hid
    exact ⟨rif, hrif, hon⟩
  · rintro ⟨rif, hrif, hon⟩
    exact h.found _ rif hrif hon
  · obtain ⟨rif, -, hget, hon⟩ := hsound lag_id id hid
    exact ⟨rif, hget, hon⟩
  · rintro ⟨rif, hrif, hon⟩
    obtain ⟨id, hid⟩ := h.found _ rif hrif hon
    obtain ⟨r, hr, hget, hr_on⟩ := hsound lag_id id hid
    have hnull : id ≠ .null := by
      have htype := h.typed r hr
      have hrid : r.rif_id = id := by simpa using List.find?_some hget
      rintro rfl
      rw [hrid] at htype
      simp [Oid.null] at htype
    refine ⟨r, hr, hr_on, ?_⟩
    unfold rifLagCallback
    rw [hid]
    simp only
    rw [if_neg hnull]
    unfold rifLagMemberUpdate
    rw [if_neg hports, hget]
    simp only
    rw [if_neg (by simpa using hr_on.2)]
    unfold andThen
    split
    · exact (portListRoutingModeUpdate_writes env port_list is_add
        (s.call env (.rifLagMemberUpdate r port_list is_add)).2).rifFrame.log
    · exact List.prefix_refl _
  · have hnone : getRifIdFromLagId lag_id s = none := by
      by_contra hsome
      obtain ⟨id, hid⟩ := Option.ne_none_iff_exists'.mp hsome
      obtain ⟨rif, hrif, -, hon⟩ := hsound lag_id id hid
      exact hno rif hrif hon
    unfold rifLagCallback
    rw [hnone]

/-- **The map agrees with the tree** in every state that calls on router interfaces reach, as
long as a create call that names a LAG without a router interface puts one on it, and none is
removed from a LAG that has another. -/
theorem lagRifMap_of_run {s t : Fib} (hs : NoRifs s) (hrun : FibRun RifCall s t) :
    LagRifMap t :=
  (hrun.induct (P := LagState) (fun _ _ h hc => LagState.step hc h) hs.lagState).lagRifMap

/-! ## One virtual router -/

def oneVr : Fib := fibStep ⟨Env.good 1, .virtualRouterCreate []⟩ (Fib.init 4)

theorem noRifs_oneVr : NoRifs oneVr := ⟨rfl, fun _ => rfl⟩

def onLag5 (vr_id : Nat) (mac : Mac) : List RifAttr :=
  [.virtualRouterId ⟨.virtualRouter, vr_id⟩, .type 0, .portId ⟨.lag, 5⟩, .srcMacAddress mac]

/-- A create call that fails leaves a map entry behind, here in front of that of the router
interface that is created next; and of two router interfaces on the LAG, the one that is
removed takes the map entry of the other with it. -/
theorem not_lagRifMap_lag5 :
    NoRifs oneVr ∧
      ¬ LagRifMap (fibStep ⟨Env.good 1, .routerInterfaceCreate .null (onLag5 9 7)⟩ oneVr) ∧
      ¬ LagRifMap (fibStep ⟨Env.good 1, .routerInterfaceCreate .null (onLag5 1 7)⟩
        (fibStep ⟨Env.good 1, .routerInterfaceCreate .null (onLag5 9 7)⟩ oneVr)) ∧
      ¬ LagRifMap (fibStep ⟨Env.good 1, .routerInterfaceRemove ⟨.routerInterface, 1⟩⟩
        (fibStep ⟨Env.good 2, .routerInterfaceCreate .null (onLag5 1 8)⟩
          (fibStep ⟨Env.good 1, .routerInterfaceCreate .null (onLag5 1 7)⟩ oneVr))) := by
  refine ⟨noRifs_oneVr, fun h => ?_, fun h => ?_, fun h => ?_⟩
  · have hthere := (h.found ⟨.lag, 5⟩).mp ⟨.null, by decide⟩
    revert hthere
    decide
  · obtain ⟨rif, hrif, -⟩ := h.sound ⟨.lag, 5⟩ .null (by decide)
    have hnone : (fibStep ⟨Env.good 1, .routerInterfaceCreate .null (onLag5 1 7)⟩
        (fibStep ⟨Env.good 1, .routerInterfaceCreate .null (onLag5 9 7)⟩ oneVr)).rif .null =
        none := by decide
    rw [hnone] at hrif
    simp at hrif
  · obtain ⟨id, hid⟩ := (h.found ⟨.lag, 5⟩).mpr (by decide)
    have hnone : getRifIdFromLagId ⟨.lag, 5⟩
        (fibStep ⟨Env.good 1, .routerInterfaceRemove ⟨.routerInterface, 1⟩⟩
          (fibStep ⟨Env.good 2, .routerInterfaceCreate .null (onLag5 1 8)⟩
            (fibStep ⟨Env.good 1, .routerInterfaceCreate .null (onLag5 1 7)⟩ oneVr))) = none := by
      decide
    rw [hnone] at hid
    simp at hid

/-- The router interface on the LAG 5, created in a FIB without router interfaces. -/
theorem rifCreateClean_onLag5 :
    RifCreateClean (Env.good 1) (onLag5 1 7) oneVr := by
  have hcreatable : RifCreatable (Env.good 1) (onLag5 1 7) oneVr
      { rifInheritVrfAttributes ⟨{ rifAttributesInit (Env.good 1) with
          vrf_id := ⟨.virtualRouter, 1⟩, type := .port, attachment := ⟨.lag, 5⟩, src_mac := 7 },
          true, false, true, .port, true, false, false⟩ oneVr with rif_id := .null } :=
    ⟨⟨by decide, by decide, rfl⟩, by rfl, .inr (.inr ⟨rfl, .inl rfl⟩), rfl, by decide, rfl⟩
  intro lag_id _
  constructor
  · rintro ⟨-, hlag, -⟩
    obtain rfl : ⟨.lag, 5⟩ = lag_id := Option.some.inj hlag
    exact ⟨_, hcreatable, by decide⟩
  · rintro ⟨rif, hc, hon⟩
    have hparse := hc.parse
    rw [hcreatable.parse] at hparse
    cases hparse
    obtain rfl := hon.2
    exact ⟨hc.taken, by decide, rfl⟩

theorem lagRifMap_of_run_onLag5 :
    LagRifMap (fibStep ⟨Env.good 1, .routerInterfaceRemove ⟨.routerInterface, 1⟩⟩
      (fibStep ⟨Env.good 1, .routerInterfaceCreate .null (onLag5 1 7)⟩ oneVr)) := by
  refine lagRifMap_of_run noRifs_oneVr
    (.snoc _ (.snoc _ (.nil _) (.create rifCreateClean_onLag5)) (.remove ?_))
  intro rif lag_id _ _ _ _ other hother _
  have hids : ∀ r ∈ (fibStep ⟨Env.good 1, .routerInterfaceCreate .null (onLag5 1 7)⟩
      oneVr).router_interface_tree, r.rif_id = ⟨.routerInterface, 1⟩ := by decide
  exact hids other hother

end OpxSai
