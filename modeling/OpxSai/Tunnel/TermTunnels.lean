import OpxSai.Tunnel.TermCases
import OpxSai.Tunnel.TunnelExact

/-!
# What a call on tunnels leaves to termination entries

A tunnel comes without entries and next hops, and goes without them. Its underlay is that of its router
interface. Tree and NPU are free to refuse it at any point.
-/

namespace OpxSai

open TunnelDb Fib
variable {rif_id : Oid} {f : Rif → Rif} {tunnel : TunnelObj} {s t : Fib}

structure TunnelAppeared (i : Nat) (tunnel : TunnelObj) (db db' : TunnelDb) : Prop where
  fresh : db.tunnelObjGet (tunnelId i) = none
  tunnels : db'.tunnels = Tree.insert db.tunnels (tunnelId i) tunnel
  list : tunnel.tunnel_term_entry_list = []
  home : TunnelHome tunnel db.fib
  terms : db'.terms = db.terms
  bitmap : db'.term_id_bitmap = db.term_id_bitmap
  npu : db'.npu_terms = db.npu_terms
  nodes : NhsKept db.fib db'.fib
  nhs : db'.fib.tunnels = fun t =>
    if t = tunnelId i then some ⟨tunnel.underlay_vrf, []⟩ else db.fib.tunnels t

structure TunnelGone (o : Oid) (tunnel : TunnelObj) (db db' : TunnelDb) : Prop where
  get : db.tunnelObjGet o = some tunnel
  unused : db.encapNhs o = []
  list : tunnel.tunnel_term_entry_list = []
  tunnels : db'.tunnels = Tree.erase db.tunnels o
  terms : db'.terms = db.terms
  bitmap : db'.term_id_bitmap = db.term_id_bitmap
  npu : db'.npu_terms = db.npu_terms
  nodes : NhsKept db.fib db'.fib
  nhs : db'.fib.tunnels = fun t => if t = o then none else db.fib.tunnels t

structure TunnelBack (o : Oid) (tunnel : TunnelObj) (db db' : TunnelDb) : Prop where
  get : db.tunnelObjGet o = some tunnel
  tunnels : db'.tunnels = Tree.insert (Tree.erase db.tunnels o) o tunnel
  terms : db'.terms = db.terms
  bitmap : db'.term_id_bitmap = db.term_id_bitmap
  npu : db'.npu_terms = db.npu_terms
  nodes : NhsKept db.fib db'.fib
  nhs : db'.fib.tunnels = fun t =>
    if t = o then some ⟨tunnel.underlay_vrf, db.encapNhs o⟩ else db.fib.tunnels t

section Tunnels

variable {env : TunnelEnv} {db : TunnelDb}

theorem NodePlaces.modRif (h : NodePlaces s)
    (hid : ∀ r, (f r).rif_id = r.rif_id) (hvrf : ∀ r, (f r).vrf_id = r.vrf_id) :
    NodePlaces (s.modRif rif_id f) := by
  refine ⟨h.vrfs, h.node, h.entry, fun p hp => home_modRif hid hvrf (h.home p hp), ?_⟩
  rw [rif_ids_modRif hid]
  exact h.rifs

theorem NhsKept.modRif (h : NhsKept s t)
    (hid : ∀ r, (f r).rif_id = r.rif_id) (hvrf : ∀ r, (f r).vrf_id = r.vrf_id) :
    NhsKept s (t.modRif rif_id f) :=
  ⟨h.places.modRif hid hvrf, h.live, h.nodes,
    fun r => (homes_modRif hid hvrf t _ r).trans (h.homes r), h.vrfs, h.ids⟩

theorem NhsKept.rifIncr (h : NhsKept s db.fib) :
    NhsKept s (db.rifIncr rif_id).fib :=
  h.modRif (f := fun r => { r with ref_count := r.ref_count + 1 }) (fun _ => rfl) fun _ => rfl

theorem NhsKept.rifDecr (h : NhsKept s db.fib) :
    NhsKept s (db.rifDecr rif_id).fib :=
  h.modRif (f := fun r => { r with ref_count := r.ref_count - 1 }) (fun _ => rfl) fun _ => rfl

theorem NhsKept.setTunnels (h : NhsKept s t) (tunnels : Oid → Option Tunnel) :
    NhsKept s { t with tunnels := tunnels } :=
  ⟨⟨h.places.vrfs, h.places.node, h.places.entry, h.places.home, h.places.rifs⟩, h.live, h.nodes, h.homes,
    h.vrfs, h.ids⟩

/-! ## The underlay of a tunnel -/

theorem TunnelHome.of_eq {tunnel' : TunnelObj} (h : TunnelHome tunnel s)
    (hrif : tunnel'.underlay_rif = tunnel.underlay_rif) (hvrf : tunnel'.underlay_vrf = tunnel.underlay_vrf) :
    TunnelHome tunnel' s := by
  unfold TunnelHome
  rw [hrif, hvrf]
  exact h

theorem TunnelHome.moved (h : TunnelHome tunnel s)
    (hhomes : ∀ r, (t.rif r).map Rif.vrf_id = (s.rif r).map Rif.vrf_id)
    (hvrfs : ∀ v, (t.vrf v).isSome = (s.vrf v).isSome) : TunnelHome tunnel t := by
  rcases h with ⟨rif, hrif, hvrf⟩ | hnone
  · have hmap := hhomes tunnel.underlay_rif
    rw [hrif] at hmap
    obtain ⟨rif', hrif', heq⟩ := Option.map_eq_some_iff.mp hmap
    exact .inl ⟨rif', hrif', heq.trans hvrf⟩
  refine .inr ?_
  have hsome := hvrfs tunnel.underlay_vrf
  rw [hnone] at hsome
  exact Option.isNone_iff_eq_none.mp (by rw [← Option.not_isSome, hsome]; rfl)

/-- **The underlay** of a tunnel with its attributes is that of its router interface. -/
theorem tunnelAttrSet_home (env) (tunnel_id) (attr_list)
    (hnull : db.fib.vrf .null = none) :
    TunnelHome (tunnelAttrSet env tunnel_id attr_list .zero db).2.1 db.fib := by
  have hlists : ∀ is_encap l {t : TunnelObj} {s : Fib}, TunnelHome t s → TunnelHome (t.setMappers is_encap l) s := by
    intro is_encap l t s h
    cases is_encap <;> exact h.of_eq rfl rfl
  refine (tunnelAttrSet_induct (P := fun t db' => db'.fib = db.fib ∧ TunnelHome t db.fib) env tunnel_id ?_
    (fun t _ _ honly h => ⟨honly.fib.trans h.1, h.2⟩)
    (fun t _ h => ⟨h.1, hlists _ _ (hlists _ _ h.2)⟩) ⟨rfl, .inr hnull⟩ attr_list).2
  rintro attr t db' ⟨hfib, h⟩
  refine ⟨(tunnelAttrStore_only env tunnel_id attr t db').fib.trans hfib, ?_⟩
  refine tunnelAttrStore_induct (P := fun t' => TunnelHome t' db.fib) env tunnel_id h (fun _ => h.of_eq rfl rfl)
    (fun _ => h.of_eq rfl rfl) (fun is_encap f => by cases is_encap <;> exact h.of_eq rfl rfl) ?_
    (fun _ _ => h.of_eq rfl rfl) fun is_encap _ _ l => hlists is_encap l h
  exact fun oid rif hrif => .inl ⟨rif, hfib ▸ hrif, rfl⟩

/-! ## What a call leaves -/

/-- **A create** adds a tunnel without entries and next hops, or leaves the tunnels. -/
theorem tunnelCreate_terms (max_id : Nat) (attr_list) (h : NodePlaces db.fib)
    (hnull : db.fib.vrf .null = none) :
    let x := tunnelCreate max_id env attr_list db
    (TermKept db x.2.2 ∧ x.2.2.fib = db.fib) ∨ ∃ i tunnel, TunnelAppeared i tunnel db x.2.2 := by
  intro x
  have hx : TunnelCreates env attr_list db x := tunnelCreate_does env
  clear_value x
  cases hx with
  | early _ start => exact .inl ⟨start.termKept, start.fib⟩
  | @refused rc i db₁ db₂ npu _ _ _ _ only =>
    have hclean := only.trans (tunnelMappersClean_only env (tunnelId i)
      (tunnelAttrSet env (tunnelId i) attr_list .zero db₁).2.1 _)
    exact .inl ⟨⟨hclean.terms, hclean.tunnels, hclean.term_id_bitmap, hclean.npu_terms⟩, hclean.fib⟩
  | @created i db₁ db₂ _ start _ fresh _ only _ =>
    have hhome := @tunnelAttrSet_home db₁ env (tunnelId i) attr_list (by rw [start.fib]; exact hnull)
    rw [start.fib] at hhome
    have hlist := (tunnelAttrSet_unused env (tunnelId i) attr_list db₁).1
    generalize tunnelAttrSet _ _ _ _ _ = set at hhome hlist ⊢
    refine .inr ⟨i, set.2.1, fresh, ?_, hlist, hhome, only.terms, only.term_id_bitmap, only.npu_terms, ?_, ?_⟩
    · exact congrArg (fun tunnels => Tree.insert tunnels (tunnelId i) set.2.1) only.tunnels
    · have hkept : NhsKept db.fib (db₂.addTunnel (tunnelId i) set.2.1 []).fib := by
        refine NhsKept.setTunnels ?_ _
        rw [only.fib]
        exact .refl h
      exact hkept.rifIncr.rifIncr
    · show (fun t => if t = tunnelId i then _ else db₂.fib.tunnels t) = _
      rw [only.fib]

/-- **A remove** drops a tunnel without entries and next hops, or brings it back, or leaves the tunnels. -/
theorem tunnelRemove_terms (o) (h : NodePlaces db.fib) :
    let x := tunnelRemove env o db
    (x.1 ≠ .success ∧ x.2 = db) ∨
    ∃ tunnel, TunnelGone o tunnel db x.2 ∨ (x.1 ≠ .success ∧ TunnelBack o tunnel db x.2) := by
  intro x
  have hx : TunnelRemoves env o db x := tunnelRemove_does env
  clear_value x
  have hdropped : NhsKept db.fib (db.dropTunnel o).fib := (NhsKept.refl h).setTunnels _
  cases hx with
  | refused bad => exact .inl ⟨bad, rfl⟩
  | @restored rc tunnel db₁ free bad _ only _ =>
    refine .inr ⟨tunnel, .inr ⟨bad, free.get, ?_, only.terms, only.term_id_bitmap, only.npu_terms, ?_, ?_⟩⟩
    · exact congrArg (fun tunnels => Tree.insert tunnels o tunnel) only.tunnels
    · have hkept : NhsKept db.fib db₁.fib := only.fib ▸ hdropped
      exact hkept.setTunnels _
    · show (fun t => if t = o then some (⟨_, db.encapNhs o⟩ : Tunnel) else db₁.fib.tunnels t) = _
      rw [only.fib]
      funext t
      show (if t = o then some (⟨_, db.encapNhs o⟩ : Tunnel)
        else if t = o then none else db.fib.tunnels t) = _
      split <;> rfl
  | @lost rc tunnel db₁ free _ _ only _ =>
    refine .inr ⟨tunnel, .inl ⟨free.get, free.nhs, free.terms, only.tunnels, only.terms, only.term_id_bitmap,
      only.npu_terms, only.fib ▸ hdropped, ?_⟩⟩
    rw [only.fib]
    rfl
  | @gone tunnel db₁ free only _ =>
    have hclean := tunnelMappersClean_only env o tunnel (db₁.giveBackTunnel o tunnel)
    refine .inr ⟨tunnel, .inl ⟨free.get, free.nhs, free.terms, hclean.tunnels.trans only.tunnels,
      hclean.terms.trans only.terms, hclean.term_id_bitmap.trans only.term_id_bitmap,
      hclean.npu_terms.trans only.npu_terms, ?_, ?_⟩⟩
    · have hkept : NhsKept db.fib (db₁.setTunnelIndex o.id true).fib := by
        show NhsKept db.fib db₁.fib
        rw [only.fib]
        exact hdropped
      rw [hclean.fib]
      exact hkept.rifDecr.rifDecr
    · rw [hclean.fib]
      show db₁.fib.tunnels = _
      rw [only.fib]
      rfl

end Tunnels

end OpxSai
