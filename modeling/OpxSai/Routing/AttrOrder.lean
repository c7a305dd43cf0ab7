import OpxSai.Lib.Run
import OpxSai.Routing.RifAttrs

/-!
# Routing — the order of the attributes

A create request has its attributes in any order. Each parser takes them one by one and may stop at any
of them; where no attribute is there twice, what it makes of them does not depend on the order, only the
error that it finds first does.

* `routeCreate_perm`, `neighborCreate_perm` — attributes that write fields of their own;
* `routerInterfaceCreate_perm` — attributes that are checked against each other.
-/

namespace OpxSai

open Fib

/-! ## The loop -/

theorem attrListParse_toOption {Attr Info : Type} (set : Info → Attr → Except Status Info) (i) (attr_list)
    (info) : (attrListParse set i attr_list info).toOption =
      attr_list.foldlM (fun info attr => (set info attr).toOption) info := by
  induction attr_list generalizing i info with
  | nil => rfl
  | cons attr attr_list ih =>
    rw [attrListParse, List.foldlM_cons]
    cases set info attr with
    | ok info => exact ih _ _
    | error status => rfl

theorem toOption_eq {ε α : Type} {x y : Except ε α} (h : x.toOption = y.toOption) :
    (∃ v, x = .ok v ∧ y = .ok v) ∨ ∃ e e', x = .error e ∧ y = .error e' := by
  cases x with
  | ok v =>
    cases y with
    | ok w => exact .inl ⟨v, rfl, congrArg Except.ok (Option.some.inj h).symm⟩
    | error e => cases h
  | error e =>
    cases y with
    | ok w => cases h
    | error e' => exact .inr ⟨e, e', rfl, rfl⟩

theorem attrListParse_perm {Attr Info : Type} {set : Info → Attr → Except Status Info}
    {ok : List Attr → Info → Prop} {xs ys : List Attr} {info : Info}
    (hswap : Swaps (fun info attr => (set info attr).toOption) ok) (hok : ok xs info) (hperm : xs.Perm ys) :
    (attrListParse set 0 xs info).toOption = (attrListParse set 0 ys info).toOption := by
  rw [attrListParse_toOption, attrListParse_toOption]
  exact hswap.foldlM hperm hok

/-- Two calls do the same, but for the error that they return. -/
def SameButError (x y : Status × Fib) : Prop := (x.1 = .success ↔ y.1 = .success) ∧ x.2 = y.2

theorem SameButError.refl (x) : SameButError x x := ⟨.rfl, rfl⟩

theorem SameButError.failed {rc rc'} (h : rc ≠ .success) (h' : rc' ≠ .success) (s) :
    SameButError (rc, s) (rc', s) :=
  ⟨iff_of_false h h', rfl⟩

variable {env : Env} {s : Fib}

/-! ## Routes and neighbors -/

section Route

variable {xs ys : List RouteAttr} {route : Route}

def RouteAttr.id : RouteAttr → Nat
  | .other id => 4 + id
  | attr => attr.ctorIdx

theorem routeAttrs_swap (env s) : Swaps (fun route attr => (routeAttrSet env s route attr).toOption)
    fun attr_list _ => (attr_list.map RouteAttr.id).Nodup := by
  refine .of_name fun a b route hne => ?_
  -- each attribute writes its own fields and reads none
  cases a <;> cases b
  all_goals first
    | exact absurd rfl hne
    | simp only [routeAttrSet, routeNhIdAttrSet]
      repeat' split
      all_goals first | rfl | contradiction

theorem routeAttrSet_error (route : Route) (attr) : routeAttrSet env s route attr ≠ .error .success := by
  cases attr <;> simp only [routeAttrSet, routeNhIdAttrSet] <;> grind

theorem routeAttributesParse_perm (hids : (xs.map RouteAttr.id).Nodup) (hperm : xs.Perm ys) :
    (routeAttributesParse env xs route s).toOption = (routeAttributesParse env ys route s).toOption := by
  unfold routeAttributesParse
  obtain ⟨route', hx, hy⟩ | ⟨e, e', hx, hy⟩ := toOption_eq
    (@attrListParse_perm _ _ _ _ _ _ route (routeAttrs_swap env s) hids hperm)
  · rw [hx, hy]
  · rw [hx, hy]
    rfl

theorem routeAttributesParse_error {rc} (h : routeAttributesParse env xs route s = .error rc) :
    rc ≠ .success := by
  unfold routeAttributesParse at h
  split at h
  next hparse =>
    cases h
    exact attrListParse_error routeAttrSet_error hparse
  split at h
  · cases h
    simp
  · cases h

/-- **Any order** of the attributes of a route. -/
theorem routeCreate_perm (hids : (xs.map RouteAttr.id).Nodup) (hperm : xs.Perm ys) (env) (entry) (s) :
    SameButError (routeCreate env entry xs s) (routeCreate env entry ys s) := by
  have hparse := fun (s : Fib) (route : Route) =>
    toOption_eq (@routeAttributesParse_perm env s _ _ route hids hperm)
  unfold routeCreate
  rw [hperm.length_eq]
  simp only
  split
  · exact .refl _
  split
  · exact .refl _
  split
  · unfold routeCreateNew
    split
    · exact .refl _
    obtain ⟨route, hx, hy⟩ | ⟨e, e', hx, hy⟩ :=
      hparse (routeNodeAlloc (routeNodeInit entry) s) (routeNodeInit entry)
    · simp only [hx, hy]
      exact .refl _
    · simp only [hx, hy]
      exact .failed (routeAttributesParse_error hx) (routeAttributesParse_error hy) _
  split
  · exact .refl _
  split
  · exact .refl _
  rename_i r _ _ _
  -- a default route that is there is written in place
  unfold routeCreateDefault
  obtain ⟨route, hx, hy⟩ | ⟨e, e', hx, hy⟩ := hparse s ((s.route r).setPacketAction .forward)
  · rw [hx, hy]
    exact .refl _
  · rw [hx, hy]
    exact .failed (routeAttributesParse_error hx) (routeAttributesParse_error hy) _

theorem routeCreate_perm_two :
    let entry : RouteEntry := ⟨⟨.virtualRouter, 1⟩, .ip4 10, 24⟩
    SameButError (routeCreate (.good 1) entry [.packetAction 0, .trapPriority 1] oneVr)
      (routeCreate (.good 1) entry [.trapPriority 1, .packetAction 0] oneVr) :=
  routeCreate_perm (by decide) (.swap _ _ _) _ _ _

end Route

section Neighbor

variable {xs ys : List NeighborAttr} {nh_info : Nh}

def NeighborAttr.id : NeighborAttr → Nat
  | .other id => 4 + id
  | attr => attr.ctorIdx

theorem neighborAttrs_swap (env) : Swaps (fun x attr => (neighborAttrSet env x attr).toOption)
    fun attr_list _ => (attr_list.map NeighborAttr.id).Nodup := by
  refine .of_name fun a b x hne => ?_
  cases a <;> cases b
  all_goals first
    | exact absurd rfl hne
    | simp only [neighborAttrSet]
      repeat' split
      all_goals first | rfl | contradiction

theorem neighborInfoFill_error {rc} (h : neighborInfoFill env xs nh_info = .error rc) : rc ≠ .success := by
  have hset : ∀ x attr, neighborAttrSet env x attr ≠ .error .success := fun x attr => by
    cases attr <;> simp only [neighborAttrSet] <;> grind
  unfold neighborInfoFill at h
  split at h
  · cases h
    simp
  split at h
  next hparse =>
    cases h
    exact attrListParse_error hset hparse
  split at h
  · cases h
    simp
  · cases h

theorem neighborInfoFill_perm (hids : (xs.map NeighborAttr.id).Nodup) (hperm : xs.Perm ys) :
    (neighborInfoFill env xs nh_info).toOption = (neighborInfoFill env ys nh_info).toOption := by
  unfold neighborInfoFill
  have hnil : xs = [] ↔ ys = [] := by
    rw [← List.length_eq_zero_iff, hperm.length_eq, List.length_eq_zero_iff]
  simp only [hnil]
  split
  · rfl
  obtain ⟨x, hx, hy⟩ | ⟨e, e', hx, hy⟩ := toOption_eq
    (@attrListParse_perm _ _ _ _ _ _ (nh_info, NeighborFlags.none) (neighborAttrs_swap env) hids hperm)
  · rw [hx, hy]
  · rw [hx, hy]
    rfl

/-- **Any order** of the attributes of a neighbor. -/
theorem neighborCreate_perm (hids : (xs.map NeighborAttr.id).Nodup) (hperm : xs.Perm ys) (env) (entry) (s) :
    SameButError (neighborCreate env entry xs s) (neighborCreate env entry ys s) := by
  unfold neighborCreate
  split
  · exact .refl _
  rename_i nh_info _
  obtain ⟨x, hx, hy⟩ | ⟨e, e', hx, hy⟩ :=
    toOption_eq (@neighborInfoFill_perm env _ _ nh_info hids hperm)
  · rw [hx, hy]
    exact .refl _
  · rw [hx, hy]
    exact .failed (neighborInfoFill_error hx) (neighborInfoFill_error hy) _

theorem neighborCreate_perm_two :
    let entry : NeighborEntry := ⟨⟨.routerInterface, 1⟩, .ip4 10⟩
    SameButError (neighborCreate (.good 1) entry [.dstMacAddress 7, .noHostRoute true] twoOnPort5)
      (neighborCreate (.good 1) entry [.noHostRoute true, .dstMacAddress 7] twoOnPort5) :=
  neighborCreate_perm (by decide) (.swap _ _ _) _ _ _

end Neighbor

/-! ## Router interfaces -/

section Rif

variable {info info' : RifInfo} {a b attr : RifAttr} {xs ys : List RifAttr}

def RifAttr.id : RifAttr → Nat
  | .other id => 12 + id
  | attr => attr.ctorIdx

theorem RifAttr.taken_swap (hne : a.id ≠ b.id)
    (hfresh : ∀ s32, a = .type s32 ∨ b = .type s32 → info.rif.type = .none)
    (ha : a.Taken env s info) (hb : b.Taken env s (a.write info)) :
    b.Taken env s info ∧ a.Taken env s (b.write info) ∧
      b.write (a.write info) = a.write (b.write info) := by
  cases a <;> cases b
  all_goals first
    | exact absurd rfl hne
    | exact ⟨hb, ha, rfl⟩
    | skip
  -- the type against port, VLAN and MAC address, and the port against the VLAN
  all_goals simp only [RifAttr.Taken, RifAttr.write] at *
  all_goals grind

theorem rifAttrSet_toOption (hnpu : ∀ type attr, env.status (.rifAttrValidate type attr) = .success) :
    (rifAttrSet env s info attr).toOption = some info' ↔
      attr.Taken env s info ∧ attr.write info = info' := by
  rw [← rifAttrFill_ok_iff, rifAttrSet]
  cases rifAttrFill env s info attr <;> simp [hnpu, Except.toOption]

theorem RifAttr.write_type (h : ∀ s32, attr ≠ .type s32) : (attr.write info).rif.type = info.rif.type := by
  cases attr <;> first | rfl | exact absurd rfl (h _)

/-- While the type is to come the router interface has none. -/
theorem rifAttrs_swap (hnpu : ∀ type attr, env.status (.rifAttrValidate type attr) = .success) :
    Swaps (fun info attr => (rifAttrSet env s info attr).toOption) fun attr_list info =>
      (attr_list.map RifAttr.id).Nodup ∧ ∀ s32, .type s32 ∈ attr_list → info.rif.type = .none where
  next := by
    intro attr attr_list info info' h hattr
    obtain ⟨-, rfl⟩ := (rifAttrSet_toOption hnpu).mp hattr
    obtain ⟨hnot, hids⟩ := List.nodup_cons.mp h.1
    refine ⟨hids, fun s32 hmem => ?_⟩
    rw [RifAttr.write_type]
    · exact h.2 s32 (List.mem_cons_of_mem _ hmem)
    · rintro s32' rfl
      exact hnot (List.mem_map.mpr ⟨_, hmem, rfl⟩)
  perm := fun h hperm =>
    ⟨(hperm.map _).nodup_iff.mp h.1, fun s32 hmem => h.2 s32 (hperm.mem_iff.mpr hmem)⟩
  swap := by
    intro a b attr_list info h
    have hne : a.id ≠ b.id := fun heq => (List.nodup_cons.mp h.1).1 (heq ▸ List.mem_cons_self)
    have hfresh : ∀ s32, a = .type s32 ∨ b = .type s32 → info.rif.type = .none := by
      rintro s32 (rfl | rfl)
      · exact h.2 s32 List.mem_cons_self
      · exact h.2 s32 (List.mem_cons_of_mem _ List.mem_cons_self)
    -- both orders reach a record, or neither does
    refine Option.ext fun info' => ?_
    simp only [Option.bind_eq_some_iff, rifAttrSet_toOption hnpu]
    constructor
    · rintro ⟨-, ⟨ha, rfl⟩, hb, rfl⟩
      obtain ⟨hb', ha', heq⟩ := RifAttr.taken_swap hne hfresh ha hb
      exact ⟨_, ⟨hb', rfl⟩, ha', heq.symm⟩
    · rintro ⟨-, ⟨hb, rfl⟩, ha, rfl⟩
      obtain ⟨ha', hb', heq⟩ := RifAttr.taken_swap hne.symm (fun s32 h => hfresh s32 h.symm) hb ha
      exact ⟨_, ⟨ha', rfl⟩, hb', heq.symm⟩

theorem rifAttributesParse_perm (hnpu : ∀ type attr, env.status (.rifAttrValidate type attr) = .success)
    (hids : (xs.map RifAttr.id).Nodup) (hperm : xs.Perm ys) :
    (rifAttributesParse env xs (rifAttributesInit env) s).toOption =
      (rifAttributesParse env ys (rifAttributesInit env) s).toOption := by
  unfold rifAttributesParse
  obtain ⟨info, hx, hy⟩ | ⟨e, e', hx, hy⟩ := toOption_eq (@attrListParse_perm _ _ _ _ _ _
    ⟨rifAttributesInit env, false, false, false, .none, false, false, false⟩
    (rifAttrs_swap (s := s) hnpu) ⟨hids, fun _ _ => rfl⟩ hperm)
  · rw [hx, hy]
  · rw [hx, hy]
    rfl

theorem getLagIdFromAttr_perm (hids : (xs.map RifAttr.id).Nodup) (hperm : xs.Perm ys) :
    getLagIdFromAttr xs = getLagIdFromAttr ys := by
  induction hperm with
  | nil => rfl
  | cons attr _ ih =>
    have ih := ih (List.nodup_cons.mp hids).2
    cases attr <;> first | rfl | exact ih
  | swap a b l =>
    have hne : b.id ≠ a.id := fun heq => (List.nodup_cons.mp hids).1 (heq ▸ List.mem_cons_self)
    cases a <;> cases b <;> first | rfl | exact absurd rfl hne
  | trans hxs _ ih₁ ih₂ => exact (ih₁ hids).trans (ih₂ ((hxs.map _).nodup_iff.mp hids))

/-- **Any order** of the attributes of a router interface. -/
theorem routerInterfaceCreate_perm (hnpu : ∀ type attr, env.status (.rifAttrValidate type attr) = .success)
    (hids : (xs.map RifAttr.id).Nodup) (hperm : xs.Perm ys) (rif_obj_id) (s) :
    let x := routerInterfaceCreate env rif_obj_id xs s
    let y := routerInterfaceCreate env rif_obj_id ys s
    SameButError x.1 y.1 ∧ x.2 = y.2 := by
  have hobject :
      SameButError (rifCreateObject env rif_obj_id xs s).1 (rifCreateObject env rif_obj_id ys s).1 ∧
        (rifCreateObject env rif_obj_id xs s).2 = (rifCreateObject env rif_obj_id ys s).2 := by
    unfold rifCreateObject
    obtain ⟨rif, hx, hy⟩ | ⟨e, e', hx, hy⟩ :=
      toOption_eq (@rifAttributesParse_perm env s _ _ hnpu hids hperm)
    · rw [hx, hy]
      exact ⟨.refl _, rfl⟩
    · rw [hx, hy]
      exact ⟨.failed (rifAttributesParse_error hx) (rifAttributesParse_error hy) s, rfl⟩
  -- the LAG is looked up in the list once more, for the LAG map
  simp only [routerInterfaceCreate, hperm.length_eq, getLagIdFromAttr_perm hids hperm]
  obtain ⟨⟨hrc, hs⟩, hid⟩ := hobject
  split_ifs
  · exact ⟨.refl _, rfl⟩
  · exact ⟨.refl _, rfl⟩
  cases getLagIdFromAttr ys with
  | none => exact ⟨⟨hrc, hs⟩, hid⟩
  | some lag_id => exact ⟨⟨hrc, by rw [hs, hid]⟩, hid⟩

theorem routerInterfaceCreate_perm_onPort5 :
    let x := routerInterfaceCreate (.good 1) .null (onPort5 7) oneVr
    let y := routerInterfaceCreate (.good 1) .null (onPort5 7).reverse oneVr
    SameButError x.1 y.1 ∧ x.2 = y.2 :=
  routerInterfaceCreate_perm (fun _ _ => rfl) (by decide) (List.reverse_perm _).symm _ _

end Rif

end OpxSai
