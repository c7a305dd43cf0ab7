import OpxSai.Routing.LagRifMap

/-!
# Routing — one port or VLAN, one virtual router, one MAC address each

Router interfaces of one type on one port, LAG or VLAN share the virtual router and have MAC
addresses of their own. The create call looks through the whole tree for a clash; the virtual
router of a router interface never changes afterwards, but its MAC address does, and the set
call does not look.

* `RifsApart` — the invariant, and `RifSetClean`, when the set call keeps it;
* `rifsUnique_of_run` — what a run preserves.
-/

namespace OpxSai

open Fib

/-- Two router interfaces that must not both be there. -/
def Rif.Clash (a b : Rif) : Prop :=
  a.type ≠ .loopback ∧ a.type = b.type ∧ a.attachment = b.attachment ∧
    (a.vrf_id ≠ b.vrf_id ∨ a.src_mac = b.src_mac)

instance (a b : Rif) : Decidable (a.Clash b) := inferInstanceAs (Decidable (_ ∧ _ ∧ _ ∧ _))

def RifsUnique (s : Fib) : Prop := s.router_interface_tree.Pairwise fun a b => ¬ a.Clash b

instance (s : Fib) : Decidable (RifsUnique s) :=
  inferInstanceAs (Decidable (List.Pairwise _ _))

/-- The set call does not give a router interface the MAC address of another one of its type on
its port, LAG or VLAN. -/
def RifSetClean (env : Env) (rif_id : Oid) (attr : RifAttr) (s : Fib) : Prop :=
  ∀ rif mac other, s.rif rif_id = some rif → attr = .srcMacAddress mac → mac ≠ 0 →
    rif.type ≠ .loopback → env.status (.rifAttrValidate rif.type attr) = .success →
    env.status (.rifAttrSet { rif with src_mac := mac } attr) = .success →
    other ∈ s.router_interface_tree → other.rif_id ≠ rif_id →
    other.type = rif.type → other.attachment = rif.attachment → other.src_mac ≠ mac

section RifsApart

variable {env : Env} {s t : Fib} {a b rif : Rif} {rif_id : Oid} {attr : RifAttr}

theorem Rif.Clash.symm (h : a.Clash b) : b.Clash a := by
  obtain ⟨htype, hsame, hport, hclash⟩ := h
  exact ⟨hsame ▸ htype, hsame.symm, hport.symm, hclash.imp Ne.symm Eq.symm⟩

def Rif.Apart (a b : Rif) : Prop := a.rif_id ≠ b.rif_id ∧ ¬ a.Clash b

theorem Rif.Apart.symm (h : a.Apart b) : b.Apart a :=
  ⟨h.1.symm, fun hclash => h.2 hclash.symm⟩

instance : Std.Symm Rif.Apart := ⟨fun _ _ => Rif.Apart.symm⟩

/-- Any two router interfaces of the tree are apart. -/
def RifsApart (s : Fib) : Prop := s.router_interface_tree.Pairwise Rif.Apart

theorem RifsApart.of_rifs (h : RifsApart s)
    (hrifs : t.router_interface_tree = s.router_interface_tree) : RifsApart t := by
  unfold RifsApart
  rw [hrifs]
  exact h

theorem not_clash_of_not_duplicate (h : rifIsDuplicate rif s = false)
    (hb : b ∈ s.router_interface_tree) : ¬ b.Clash rif := by
  intro hclash
  obtain ⟨htype, hsame, hport, hdiff⟩ := hclash.symm
  have hid : rifPortOrVlanIdGet rif = rifPortOrVlanIdGet b := by
    unfold rifPortOrVlanIdGet
    rw [hsame, hport]
  have hduplicate : rifIsDuplicate rif s = true := by
    unfold rifIsDuplicate
    simp only [Bool.and_eq_true, List.any_eq_true]
    refine ⟨by simpa using htype, b, hb, by simpa using ⟨hsame, hid⟩, ?_⟩
    simpa using hdiff
  rw [h] at hduplicate
  simp at hduplicate

theorem rifAttributesParse_not_duplicate {attr_list} {rif₀}
    (h : rifAttributesParse env attr_list rif₀ s = .ok rif) : rifIsDuplicate rif s = false := by
  unfold rifAttributesParse at h
  split at h
  · simp at h
  split at h
  · simp at h
  simp only at h
  split at h
  · simp at h
  rename_i hno
  cases h
  simpa using hno

theorem RifsApart.create (h : RifsApart s) (env) (rif_obj_id)
    (attr_list) :
    RifsApart (routerInterfaceCreate env rif_obj_id attr_list s).1.2 := by
  obtain ⟨rif_id, ⟨rif, hc, -, htree, hid⟩ | ⟨-, -, htree⟩, -⟩ :=
    routerInterfaceCreate_cases (s := s) env rif_obj_id attr_list
  · unfold RifsApart
    rw [htree, List.pairwise_append]
    refine ⟨h, List.pairwise_singleton _ _, fun b hb c hc' => ?_⟩
    obtain rfl := List.mem_singleton.mp hc'
    have hnew := hc.new
    rw [← hid] at hnew
    refine ⟨rif_eq_none hnew b hb, fun hclash => ?_⟩
    exact not_clash_of_not_duplicate (rifAttributesParse_not_duplicate hc.parse) hb hclash
  · exact h.of_rifs htree

theorem RifsApart.remove (h : RifsApart s) (env) (rif_id) :
    RifsApart (routerInterfaceRemove env rif_id s).2 := by
  have hkeep : ∀ (x : Status × Fib) (rif : Rif),
      x.2.router_interface_tree = s.router_interface_tree ∨ x.2.router_interface_tree =
        s.router_interface_tree.filter (fun r => r.rif_id ≠ rif.rif_id) → RifsApart x.2 := by
    intro x rif hx
    rcases hx with hx | hx
    · exact h.of_rifs hx
    unfold RifsApart
    rw [hx]
    exact h.filter _
  unfold routerInterfaceRemove
  split
  · exact h
  split
  · exact h
  rename_i rif _
  refine andThen_keeps (P := RifsApart) (hkeep _ rif ?_) fun ht => ?_
  · rcases rifRemoveNode_cases (s := s) env rif with ⟨-, -, -, htree, -⟩ | ⟨-, hframe⟩
    · exact .inr htree
    · exact .inl hframe.rifs
  · split
    · exact ht.of_rifs rfl
    · exact ht

theorem rifOptionalAttrSet_ok {rif'} (hopt : rifIsAttrMandatoryForCreate attr = false)
    (h : rifOptionalAttrSet env s rif attr = .ok rif') :
    (rif'.rif_id = rif.rif_id ∧ rif'.vrf_id = rif.vrf_id ∧ rif'.type = rif.type ∧
      rif'.attachment = rif.attachment) ∧
    (rif'.src_mac = rif.src_mac ∨ ∃ mac, attr = .srcMacAddress mac ∧ mac ≠ 0 ∧
      rif.type ≠ .loopback ∧ rif' = { rif with src_mac := mac }) := by
  unfold rifOptionalAttrSet at h
  cases attr with
  | virtualRouterId oid => simp [rifIsAttrMandatoryForCreate] at hopt
  | type s32 => simp [rifIsAttrMandatoryForCreate] at hopt
  | portId oid => simp [rifIsAttrMandatoryForCreate] at hopt
  | vlanId oid => simp [rifIsAttrMandatoryForCreate] at hopt
  | srcMacAddress mac =>
    simp only [rifAttrFill, rifMacAttrSet] at h
    split at h
    · simp [Except.map] at h
    rename_i hmac
    cases h
    rw [not_or] at hmac
    exact ⟨⟨rfl, rfl, rfl, rfl⟩, .inr ⟨mac, rfl, hmac.1, hmac.2, rfl⟩⟩
  | v4McastEnable => simp [rifAttrFill, Except.map] at h
  | v6McastEnable => simp [rifAttrFill, Except.map] at h
  | other id => simp [rifAttrFill, Except.map] at h
  | adminV4State booldata | adminV6State booldata | mtu u32 | ingressAcl | egressAcl =>
    cases h
    exact ⟨⟨rfl, rfl, rfl, rfl⟩, .inl rfl⟩

theorem RifsApart.attributeSet (h : RifsApart s) (hclean : RifSetClean env rif_id attr s) :
    RifsApart (routerInterfaceAttributeSet env rif_id attr s).2 := by
  unfold routerInterfaceAttributeSet
  split
  · exact h
  split
  · exact h
  rename_i rif hrif
  split
  · exact h
  rename_i hopt
  split
  · exact h
  rename_i hvalid
  split
  · exact h
  rename_i rif' hset
  split
  · exact h
  obtain ⟨⟨hid, hvrf, htype, hport⟩, hmac⟩ :=
    rifOptionalAttrSet_ok (by simpa using hopt) hset
  by_cases hnpu : env.status (.rifAttrSet rif' attr) = .success
  · rw [andThen_of_success (x := s.call env _) hnpu]
    have hmem : rif ∈ s.router_interface_tree := List.mem_of_find?_eq_some hrif
    have hrid : rif.rif_id = rif_id := by simpa using List.find?_some hrif
    -- the new record against any of the others
    have hnew : ∀ b ∈ s.router_interface_tree, b.rif_id ≠ rif_id → rif'.Apart b := by
      intro b hb hne
      have hold : rif.Apart b := h.forall hmem hb
        fun heq => hne (heq ▸ hrid)
      refine ⟨by rw [hid]; exact hold.1, ?_⟩
      rintro ⟨hloop, hsame, hat, hvrf' | hmac'⟩
      · rw [htype] at hloop hsame
        exact hold.2 ⟨hloop, hsame, hport ▸ hat, .inl (hvrf ▸ hvrf')⟩
      · rcases hmac with hkept | ⟨mac, hattr, hzero, hnl, rfl⟩
        · rw [htype] at hloop hsame
          exact hold.2 ⟨hloop, hsame, hport ▸ hat, .inr (hkept ▸ hmac')⟩
        · exact hclean rif mac b hrif hattr hzero hnl (not_not.mp hvalid) hnpu hb hne
            hsame.symm hat.symm hmac'.symm
    show RifsApart ((s.call env _).2.modRif rif_id fun _ => rif')
    unfold RifsApart
    show (s.router_interface_tree.map fun r =>
      if r.rif_id = rif_id then rif' else r).Pairwise Rif.Apart
    rw [List.pairwise_map]
    refine h.imp_of_mem fun {a b} ha hb hab => ?_
    by_cases haid : a.rif_id = rif_id
    · have hbid : b.rif_id ≠ rif_id := fun heq => hab.1 (haid.trans heq.symm)
      rw [if_pos haid, if_neg hbid]
      exact hnew b hb hbid
    rw [if_neg haid]
    split
    · exact (hnew a ha haid).symm
    · exact hab
  · rw [andThen_of_failure (x := s.call env _) hnpu]
    exact h

end RifsApart

/-! ## Runs -/

/-- The calls on router interfaces: any create, any remove, and set calls that are clean. -/
inductive RifUniqueCall : Call → Fib → Prop where
  | create {env : Env} {rif_obj_id : Oid} {attr_list : List RifAttr} {s : Fib} :
      RifUniqueCall ⟨env, .routerInterfaceCreate rif_obj_id attr_list⟩ s
  | remove {env : Env} {rif_id : Oid} {s : Fib} :
      RifUniqueCall ⟨env, .routerInterfaceRemove rif_id⟩ s
  | attributeSet {env : Env} {rif_id : Oid} {attr : RifAttr} {s : Fib}
      (hclean : RifSetClean env rif_id attr s) :
      RifUniqueCall ⟨env, .routerInterfaceAttributeSet rif_id attr⟩ s

theorem RifsApart.step {c} {s} (hc : RifUniqueCall c s) (h : RifsApart s) :
    RifsApart (fibStep c s) := by
  cases hc with
  | create => exact h.create _ _ _
  | remove => exact h.remove _ _
  | attributeSet hclean => exact h.attributeSet hclean

/-- **Uniqueness** in every state of a run that starts without router interfaces. -/
theorem rifsUnique_of_run {s t : Fib} (hs : s.router_interface_tree = [])
    (hrun : FibRun RifUniqueCall s t) : RifsUnique t := by
  have hstart : RifsApart s := by
    unfold RifsApart
    rw [hs]
    exact List.Pairwise.nil
  exact (hrun.induct (P := RifsApart) (fun _ _ h hc => h.step hc) hstart).imp fun h => h.2

/-! ## Two router interfaces on port 5 -/

def onPort5 (mac : Mac) : List RifAttr :=
  [.virtualRouterId ⟨.virtualRouter, 1⟩, .type 0, .portId ⟨.port, 5⟩, .srcMacAddress mac]

def twoOnPort5 : Fib :=
  fibStep ⟨Env.good 2, .routerInterfaceCreate .null (onPort5 8)⟩
    (fibStep ⟨Env.good 1, .routerInterfaceCreate .null (onPort5 7)⟩ oneVr)

/-- The set call gives the second the MAC address of the first. -/
theorem not_rifsUnique_macSet :
    oneVr.router_interface_tree = [] ∧ RifsUnique twoOnPort5 ∧
      ¬ RifsUnique (fibStep ⟨Env.good 1, .routerInterfaceAttributeSet ⟨.routerInterface, 2⟩
        (.srcMacAddress 7)⟩ twoOnPort5) := by
  decide

theorem rifsUnique_of_run_macSet :
    RifsUnique (fibStep ⟨Env.good 1, .routerInterfaceAttributeSet ⟨.routerInterface, 2⟩
      (.srcMacAddress 9)⟩ twoOnPort5) := by
  refine rifsUnique_of_run (s := oneVr) rfl (.snoc _ (.snoc _ (.snoc _ (.nil _) .create) .create)
    (.attributeSet ?_))
  intro rif mac other _ hattr _ _ _ _ hother _ _ _
  obtain rfl := RifAttr.srcMacAddress.inj hattr
  have hmacs : ∀ r ∈ twoOnPort5.router_interface_tree, r.src_mac ≠ 9 := by decide
  exact hmacs other hother

end OpxSai
