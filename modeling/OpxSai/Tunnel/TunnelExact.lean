import OpxSai.Lib.Run
import OpxSai.Routing.NodeLifetime
import OpxSai.Tunnel.TunnelFrame

/-!
# Tunnels, the NPU and the router interfaces

The tree of tunnels, the tunnels that the NPU holds and the ids that are taken are one set, and a router
interface counts the tunnels on it. Two things break this: a tunnel that the tree does not take stays in
the NPU, and one that it does not take back is lost. And a tunnel with a bridge port can be removed.

* `TunnelOpFits`, `tunnelsExact_of_run` — the condition, and that the property holds in every run under it.
-/

namespace OpxSai

open TunnelDb
variable {max_id i : Nat} {db : TunnelDb} {o : Oid} {tunnel : TunnelObj}

/-! ## The calls -/

inductive TunnelUser where
  | encapNh (nh : Ptr)
  | termEntry (term_id : Oid)
  | bridgePort

inductive TunnelOp where
  | create (env : TunnelEnv) (attr_list : List TunnelAttr)
  | remove (env : TunnelEnv) (tunnel_id : Oid)
  | use (tunnel_id : Oid) (user : TunnelUser)
  | leave (tunnel_id : Oid) (user : TunnelUser)

namespace TunnelDb

def modEncapNhs (tunnel_id : Oid) (f : List Ptr → List Ptr) (db : TunnelDb) : TunnelDb :=
  { db with fib := db.fib.modTunnel tunnel_id fun t =>
      { t with tunnel_encap_nh_list := f t.tunnel_encap_nh_list } }

def useTunnel (tunnel_id : Oid) (db : TunnelDb) : TunnelUser → TunnelDb
  | .encapNh nh => db.modEncapNhs tunnel_id fun nhs => nhs ++ [nh]
  | .termEntry term_id => db.modTunnel tunnel_id fun t =>
    { t with tunnel_term_entry_list := t.tunnel_term_entry_list ++ [term_id] }
  | .bridgePort => db.modTunnel tunnel_id fun t => { t with ref_count := t.ref_count + 1 }

def leaveTunnel (tunnel_id : Oid) (db : TunnelDb) : TunnelUser → TunnelDb
  | .encapNh nh => db.modEncapNhs tunnel_id fun nhs => nhs.erase nh
  | .termEntry term_id => db.modTunnel tunnel_id fun t =>
    { t with tunnel_term_entry_list := t.tunnel_term_entry_list.erase term_id }
  | .bridgePort => db.modTunnel tunnel_id fun t => { t with ref_count := t.ref_count - 1 }

end TunnelDb

def tunnelStep (max_id : Nat) : TunnelOp → TunnelDb → TunnelDb
  | .create env attr_list, db => (tunnelCreate max_id env attr_list db).2.2
  | .remove env tunnel_id, db => (tunnelRemove env tunnel_id db).2
  | .use tunnel_id user, db => db.useTunnel tunnel_id user
  | .leave tunnel_id user, db => db.leaveTunnel tunnel_id user

namespace TunnelDb

/-- The tunnels on a router interface: each counts for its underlay and for its overlay. -/
def rifTunnels (db : TunnelDb) (rif_id : Oid) : Nat :=
  (db.tunnels.countP fun x => decide (x.2.underlay_rif = rif_id)) +
    db.tunnels.countP fun x => decide (x.2.overlay_rif = rif_id)

def rifCount (fib : Fib) (rif_id : Oid) : Option Nat := (fib.rif rif_id).map Rif.ref_count

def Unused (db : TunnelDb) (tunnel_id : Oid) (tunnel : TunnelObj) : Prop :=
  db.encapNhs tunnel_id = [] ∧ tunnel.tunnel_term_entry_list = [] ∧ tunnel.ref_count = 0

end TunnelDb

/-- **The tunnels are those of the NPU, with their ids and router interfaces.** The routing module had some
counts before. -/
structure TunnelsExact (fib₀ : Fib) (db : TunnelDb) : Prop where
  npu : ∀ o, db.npu_tunnels o = (db.tunnelObjGet o).isSome
  ids : ∀ o, (db.tunnelObjGet o).isSome = true ↔ ∃ i, o = tunnelId i ∧ db.tunnel_id_bitmap i = false
  distinct : (db.tunnels.map Prod.fst).Nodup
  rifs : ∀ rif_id, rifCount db.fib rif_id = (rifCount fib₀ rif_id).map (· + db.rifTunnels rif_id)
  removable : ∀ o tunnel env, db.tunnelObjGet o = some tunnel →
    (∀ log, env.outside log (.tunnelObjRemove o) = .success) →
    ((tunnelRemove env o db).1 = .success ↔ db.Unused o tunnel)

/-- A tunnel with a bridge port has a next hop or a termination entry. -/
def BridgePortsListed (db : TunnelDb) (tunnel_id : Oid) : Prop :=
  ∀ tunnel, db.tunnelObjGet tunnel_id = some tunnel → tunnel.ref_count > 0 →
    db.encapNhs tunnel_id ≠ [] ∨ tunnel.tunnel_term_entry_list ≠ []

/-- **When a step keeps the tunnels exact.** The tree is not full, and a bridge port uses only a tunnel that
a next hop or a termination entry uses too. -/
def TunnelOpFits : TunnelOp → TunnelDb → Prop
  | .create env _, _ => TunnelTreeTakes env
  | .remove env _, _ => TunnelTreeTakesBack env
  | .use tunnel_id user, db => BridgePortsListed (db.useTunnel tunnel_id user) tunnel_id
  | .leave tunnel_id user, db => BridgePortsListed (db.leaveTunnel tunnel_id user) tunnel_id

/-! ## The counts of router interfaces -/

def countUp (b : Prop) [Decidable b] (n : Nat) : Nat := n + if b then 1 else 0

def countDown (b : Prop) [Decidable b] (n : Nat) : Nat := n - if b then 1 else 0

theorem rifCount_modRif {f : Rif → Rif} (hf : ∀ r, (f r).rif_id = r.rif_id) {g : Nat → Nat}
    (hg : ∀ r, (f r).ref_count = g r.ref_count) (fib) (rif_id r) :
    rifCount (fib.modRif rif_id f) r = (rifCount fib r).map fun n => if rif_id = r then g n else n := by
  rw [rifCount, rifCount, rif_modRif hf, Option.map_map, Option.map_map]
  cases hr : fib.rif r with
  | none => rfl
  | some rif =>
    have hid : rif.rif_id = r := by simpa [Fib.rif] using List.find?_some hr
    show some (if rif.rif_id = rif_id then f rif else rif).ref_count = some (if rif_id = r then _ else _)
    rw [hid]
    by_cases heq : r = rif_id
    · rw [if_pos heq, if_pos heq.symm, hg]
    · rw [if_neg heq, if_neg (Ne.symm heq)]

theorem rifCount_rifIncr (db : TunnelDb) (rif_id r : Oid) :
    rifCount (db.rifIncr rif_id).fib r = (rifCount db.fib r).map (countUp (rif_id = r)) := by
  refine (@rifCount_modRif (fun r => { r with ref_count := r.ref_count + 1 }) (fun _ => rfl) (· + 1)
    (fun _ => rfl) db.fib rif_id r).trans ?_
  congr 1
  funext n
  rw [countUp]
  split <;> rfl

theorem rifCount_rifDecr (db : TunnelDb) (rif_id r : Oid) :
    rifCount (db.rifDecr rif_id).fib r = (rifCount db.fib r).map (countDown (rif_id = r)) := by
  refine (@rifCount_modRif (fun r => { r with ref_count := r.ref_count - 1 }) (fun _ => rfl) (· - 1)
    (fun _ => rfl) db.fib rif_id r).trans ?_
  congr 1
  funext n
  rw [countDown]
  split <;> rfl

/-! ## What a create and a remove leave -/

structure TunnelAdded (i : Nat) (tunnel : TunnelObj) (db db' : TunnelDb) : Prop where
  tunnels : db'.tunnels = Tree.insert db.tunnels (tunnelId i) tunnel
  bitmap : ∀ j, db'.tunnel_id_bitmap j = if j = i then false else db.tunnel_id_bitmap j
  npu : ∀ o, db'.npu_tunnels o = if o = tunnelId i then true else db.npu_tunnels o
  rifs : ∀ r, rifCount db'.fib r = ((rifCount db.fib r).map (countUp (tunnel.underlay_rif = r))).map
    (countUp (tunnel.overlay_rif = r))
  nhs : ∀ o, o ≠ tunnelId i → db'.encapNhs o = db.encapNhs o

structure TunnelDropped (o : Oid) (tunnel : TunnelObj) (db db' : TunnelDb) : Prop where
  tunnels : db'.tunnels = Tree.erase db.tunnels o
  bitmap : ∀ j, db'.tunnel_id_bitmap j = if j = o.id then true else db.tunnel_id_bitmap j
  npu : ∀ o', db'.npu_tunnels o' = if o' = o then false else db.npu_tunnels o'
  rifs : ∀ r, rifCount db'.fib r = ((rifCount db.fib r).map (countDown (tunnel.underlay_rif = r))).map
    (countDown (tunnel.overlay_rif = r))
  nhs : ∀ o', o' ≠ o → db'.encapNhs o' = db.encapNhs o'

structure TunnelRestored (o : Oid) (tunnel : TunnelObj) (db db' : TunnelDb) : Prop where
  tunnels : db'.tunnels = Tree.insert (Tree.erase db.tunnels o) o tunnel
  bitmap : db'.tunnel_id_bitmap = db.tunnel_id_bitmap
  npu : db'.npu_tunnels = db.npu_tunnels
  rifs : ∀ r, rifCount db'.fib r = rifCount db.fib r
  nhs : ∀ o', db'.encapNhs o' = db.encapNhs o'

section Leaves

variable (env : TunnelEnv)

theorem tunnelCreate_cases {attr_list} (htree : TunnelTreeTakes env)
    (hfree : ∀ i, db.tunnel_id_bitmap i = true → (db.tunnelObjGet (tunnelId i)).isSome = false) :
    let x := tunnelCreate max_id env attr_list db
    (x.1 ≠ .success ∧ OnlyMaps db x.2.2) ∨
    (x.1 = .success ∧ ∃ i tunnel db₁, db.tunnel_id_bitmap i = true ∧ x.2.1 = tunnelId i ∧
      tunnel = (tunnelAttrSet env (tunnelId i) attr_list .zero db₁).2.1 ∧ TunnelAdded i tunnel db x.2.2) := by
  intro x
  have hx : TunnelCreates env attr_list db x := tunnelCreate_does env
  clear_value x
  cases hx with
  | early bad start => exact .inl ⟨bad, start⟩
  | @refused rc i db₁ db₂ npu bad index start _ only _ exact =>
    have hnone := Option.isSome_eq_false_iff.mp (hfree i index)
    rw [exact htree (Option.isNone_iff_eq_none.mp hnone)] at only
    exact .inl ⟨bad, only.trans (tunnelMappersClean_only ..)⟩
  | @created i db₁ db₂ index start _ fresh _ only _ =>
    refine .inr ⟨rfl, i, _, db₁, index, rfl, rfl, ?_, fun j => ?_, fun o => ?_, fun r => ?_, fun o ho => ?_⟩
    · exact congrArg (fun tunnels => Tree.insert tunnels (tunnelId i) _) only.tunnels
    · show (if j = i then false else db₂.tunnel_id_bitmap j) = _
      rw [only.tunnel_id_bitmap]
    · exact congrFun only.npu_tunnels o
    · refine (rifCount_rifIncr _ _ r).trans ?_
      rw [rifCount_rifIncr]
      show ((rifCount db₂.fib r).map _).map _ = _
      rw [only.fib]
    · show ((if o = tunnelId i then _ else db₂.fib.tunnels o) : Option Tunnel).elim [] _ = _
      rw [if_neg ho, only.fib]
      rfl

theorem tunnelRemove_cases (htree : TunnelTreeTakesBack env) {o} :
    let x := tunnelRemove env o db
    (x.1 ≠ .success ∧ x.2 = db) ∨
    ∃ tunnel, db.tunnelObjGet o = some tunnel ∧ db.encapNhs o = [] ∧ tunnel.tunnel_term_entry_list = [] ∧
      ((x.1 ≠ .success ∧ (∃ log, env.outside log (.tunnelObjRemove o) ≠ .success) ∧
          TunnelRestored o tunnel db x.2) ∨
        (x.1 = .success ∧ TunnelDropped o tunnel db x.2)) := by
  intro x
  have hx : TunnelRemoves env o db x := tunnelRemove_does env
  clear_value x
  cases hx with
  | refused bad => exact .inl ⟨bad, rfl⟩
  | @restored rc tunnel db₁ free bad kept only _ =>
    refine .inr ⟨tunnel, free.get, free.nhs, free.terms, .inl ⟨bad, kept, ?_, only.tunnel_id_bitmap, only.npu_tunnels,
      fun r => ?_, fun o' => ?_⟩⟩
    · exact congrArg (fun tunnels => Tree.insert tunnels o tunnel) only.tunnels
    · show rifCount { db₁.fib with tunnels := _ } r = _
      rw [only.fib]
      rfl
    · show ((if o' = o then some _ else db₁.fib.tunnels o') : Option Tunnel).elim [] _ = _
      by_cases heq : o' = o
      · rw [if_pos heq, heq]
        rfl
      rw [if_neg heq, only.fib]
      show ((if o' = o then none else db.fib.tunnels o') : Option Tunnel).elim [] _ = _
      rw [if_neg heq]
      rfl
  | lost _ _ kept =>
    obtain ⟨log, hkept, hlost⟩ := kept
    exact absurd (htree log o hkept) hlost
  | @gone tunnel db₁ free only _ =>
    have hclean := tunnelMappersClean_only env o tunnel (db₁.giveBackTunnel o tunnel)
    refine .inr ⟨tunnel, free.get, free.nhs, free.terms, .inr ⟨rfl, ?_, fun j => ?_, fun o' => ?_, fun r => ?_,
      fun o' ho' => ?_⟩⟩
    · exact hclean.tunnels.trans only.tunnels
    · rw [hclean.tunnel_id_bitmap]
      show (if j = o.id then true else db₁.tunnel_id_bitmap j) = _
      rw [only.tunnel_id_bitmap]
      rfl
    · rw [hclean.npu_tunnels]
      exact congrFun only.npu_tunnels o'
    · rw [hclean.fib, giveBackTunnel, rifCount_rifDecr, rifCount_rifDecr]
      show ((rifCount db₁.fib r).map _).map _ = _
      rw [only.fib]
      rfl
    · rw [encapNhs, hclean.fib]
      show (db₁.fib.tunnels o').elim [] _ = _
      rw [only.fib]
      show ((if o' = o then none else db.fib.tunnels o') : Option Tunnel).elim [] _ = _
      rw [if_neg ho']
      rfl

/-- **A remove goes well** exactly where no list has the tunnel, once the NPU lets it go. -/
theorem tunnelRemove_success_iff (htype : o.type = .tunnel)
    (hget : db.tunnelObjGet o = some tunnel) (hnpu : ∀ log, env.outside log (.tunnelObjRemove o) = .success) :
    (tunnelRemove env o db).1 = .success ↔ db.encapNhs o = [] ∧ tunnel.tunnel_term_entry_list = [] := by
  simp only [tunnelRemove, hget]
  rw [if_ok htype]
  split
  next hused =>
    refine ⟨by simp, ?_⟩
    rintro ⟨hnhs, hterms⟩
    exact hused.elim (fun h => absurd hnhs h) fun h => absurd hterms h
  rename_i hunused
  obtain ⟨hnhs, hterms⟩ := not_or.mp hunused
  have hok : ((db.dropTunnel o).call env (.tunnelObjRemove o)).1 = .success := hnpu _
  rw [if_ok hok]
  exact ⟨fun _ => ⟨not_not.mp hnhs, not_not.mp hterms⟩, fun _ => rfl⟩

end Leaves

/-! ## The invariant -/

/-- The tree, the NPU and the ids are one set, the router interfaces count it, and the lists have the
tunnels of bridge ports. -/
structure TunnelsInv (fib₀ : Fib) (db : TunnelDb) : Prop where
  npu : ∀ o, db.npu_tunnels o = (db.tunnelObjGet o).isSome
  used : ∀ i, db.tunnel_id_bitmap i = false → (db.tunnelObjGet (tunnelId i)).isSome = true
  ids : ∀ o, (db.tunnelObjGet o).isSome = true → o = tunnelId o.id ∧ db.tunnel_id_bitmap o.id = false
  keyed : Tree.Keyed db.tunnels
  rifs : ∀ rif_id, rifCount db.fib rif_id = (rifCount fib₀ rif_id).map (· + db.rifTunnels rif_id)
  listed : ∀ o, BridgePortsListed db o

theorem TunnelsInv.initial {fib₀} {bridges : Oid → Option Nat} :
    TunnelsInv fib₀ (.initial fib₀ bridges) := by
  refine ⟨fun o => rfl, fun i h => ?_, fun o h => ?_, List.nodup_nil, fun r => ?_, fun o tunnel h => ?_⟩
  · cases h
  · cases h
  · exact Option.map_id'.symm
  · cases h

section Steps

variable {fib₀ : Fib} {db' : TunnelDb}

theorem TunnelsInv.only (h : TunnelsInv fib₀ db) (honly : OnlyMaps db db') : TunnelsInv fib₀ db' := by
  have hget : ∀ o, db'.tunnelObjGet o = db.tunnelObjGet o := fun o => by
    rw [tunnelObjGet, tunnelObjGet, honly.tunnels]
  refine ⟨fun o => ?_, fun i hi => ?_, fun o ho => ?_, ?_, fun r => ?_, fun o tunnel ho href => ?_⟩
  · rw [honly.npu_tunnels, hget]
    exact h.npu o
  · rw [hget]
    exact h.used i (honly.tunnel_id_bitmap ▸ hi)
  · rw [honly.tunnel_id_bitmap]
    exact h.ids o (hget o ▸ ho)
  · rw [honly.tunnels]
    exact h.keyed
  · rw [honly.fib, rifTunnels, honly.tunnels]
    exact h.rifs r
  · rw [encapNhs, honly.fib]
    exact h.listed o tunnel (hget o ▸ ho) href

theorem TunnelsInv.free (h : TunnelsInv fib₀ db) (hi : db.tunnel_id_bitmap i = true) :
    (db.tunnelObjGet (tunnelId i)).isSome = false := by
  cases hs : (db.tunnelObjGet (tunnelId i)).isSome with
  | false => rfl
  | true => exact absurd ((h.ids _ hs).2.symm.trans hi) (by decide)

theorem TunnelsInv.added (h : TunnelsInv fib₀ db)
    (hi : db.tunnel_id_bitmap i = true) (href : tunnel.ref_count = 0) (hadded : TunnelAdded i tunnel db db') :
    TunnelsInv fib₀ db' := by
  have hnone : Tree.find db.tunnels (tunnelId i) = none := Option.isSome_eq_false_iff.mp (h.free hi) |>
    Option.isNone_iff_eq_none.mp
  have hget : ∀ o, db'.tunnelObjGet o = if o = tunnelId i then some tunnel else db.tunnelObjGet o := fun o => by
    rw [tunnelObjGet, hadded.tunnels, Tree.find_insert hnone]
    rfl
  refine ⟨fun o => ?_, fun j hj => ?_, fun o ho => ?_, ?_, fun r => ?_, fun o t ho href' => ?_⟩
  · rw [hadded.npu, hget]
    split
    · rfl
    · exact h.npu o
  · rw [hadded.bitmap] at hj
    rw [hget]
    split
    · rfl
    rename_i hne
    rw [if_neg fun heq => hne (by rw [heq])] at hj
    exact h.used j hj
  · rw [hget] at ho
    rw [hadded.bitmap]
    split at ho
    next heq =>
      rw [heq]
      exact ⟨rfl, if_pos rfl⟩
    obtain ⟨hid, hbit⟩ := h.ids o ho
    refine ⟨hid, ?_⟩
    split
    · rfl
    · exact hbit
  · rw [hadded.tunnels]
    exact h.keyed.insert _ hnone
  · rw [hadded.rifs, h.rifs, rifTunnels, rifTunnels, hadded.tunnels,
      Tree.countP_insert db.tunnels (tunnelId i) tunnel fun t => decide (t.underlay_rif = r),
      Tree.countP_insert db.tunnels (tunnelId i) tunnel fun t => decide (t.overlay_rif = r),
      Option.map_map, Option.map_map]
    congr 1
    funext n
    simp only [Function.comp, countUp, decide_eq_true_eq]
    omega
  · rw [hget] at ho
    split at ho
    · cases ho
      omega
    rename_i hne
    rw [hadded.nhs o hne]
    exact h.listed o t ho href'

theorem TunnelsInv.dropped (h : TunnelsInv fib₀ db)
    (ho : db.tunnelObjGet o = some tunnel) (hdropped : TunnelDropped o tunnel db db') :
    TunnelsInv fib₀ db' := by
  have hget : ∀ o', db'.tunnelObjGet o' = if o' = o then none else db.tunnelObjGet o' := fun o' => by
    rw [tunnelObjGet, hdropped.tunnels, Tree.find_erase]
    rfl
  obtain ⟨hid, -⟩ := h.ids o (by rw [ho]; rfl)
  refine ⟨fun o' => ?_, fun j hj => ?_, fun o' ho' => ?_, ?_, fun r => ?_, fun o' t ho' href => ?_⟩
  · rw [hdropped.npu, hget]
    split
    · rfl
    · exact h.npu o'
  · rw [hdropped.bitmap] at hj
    split at hj
    · cases hj
    rename_i hne
    rw [hget, if_neg fun heq => hne (congrArg Oid.id heq)]
    exact h.used j hj
  · rw [hget] at ho'
    split at ho'
    · cases ho'
    rename_i hne
    obtain ⟨hid', hbit⟩ := h.ids o' ho'
    refine ⟨hid', ?_⟩
    rw [hdropped.bitmap, if_neg]
    · exact hbit
    · intro heq
      exact hne (hid'.trans ((congrArg tunnelId heq).trans hid.symm))
  · rw [hdropped.tunnels]
    exact h.keyed.erase o
  · have hmem : (o, tunnel) ∈ db.tunnels := Tree.mem_of_find ho
    have hunder := Tree.countP_erase h.keyed hmem fun t => decide (t.underlay_rif = r)
    have hover := Tree.countP_erase h.keyed hmem fun t => decide (t.overlay_rif = r)
    simp only [decide_eq_true_eq] at hunder hover
    rw [hdropped.rifs, h.rifs, rifTunnels, rifTunnels, hdropped.tunnels, hunder, hover,
      Option.map_map, Option.map_map]
    congr 1
    funext n
    simp only [Function.comp, countDown]
    omega
  · rw [hget] at ho'
    split at ho'
    · cases ho'
    rename_i hne
    rw [hdropped.nhs o' hne]
    exact h.listed o' t ho' href

theorem TunnelsInv.restored (h : TunnelsInv fib₀ db)
    (ho : db.tunnelObjGet o = some tunnel) (hback : TunnelRestored o tunnel db db') :
    TunnelsInv fib₀ db' := by
  have hnone : Tree.find (Tree.erase db.tunnels o) o = none := by
    rw [Tree.find_erase, if_pos rfl]
  have hget : ∀ o', db'.tunnelObjGet o' = db.tunnelObjGet o' := fun o' => by
    rw [tunnelObjGet, hback.tunnels, Tree.find_insert hnone, Tree.find_erase]
    by_cases heq : o' = o
    · rw [if_pos heq, heq]
      exact ho.symm
    · rw [if_neg heq, if_neg heq]
      rfl
  refine ⟨fun o' => ?_, fun j hj => ?_, fun o' ho' => ?_, ?_, fun r => ?_, fun o' t ho' href => ?_⟩
  · rw [hback.npu, hget]
    exact h.npu o'
  · rw [hget]
    exact h.used j (hback.bitmap ▸ hj)
  · rw [hback.bitmap]
    exact h.ids o' (hget o' ▸ ho')
  · rw [hback.tunnels]
    exact (h.keyed.erase o).insert _ hnone
  · have hmem : (o, tunnel) ∈ db.tunnels := Tree.mem_of_find ho
    have hunder := Tree.countP_erase h.keyed hmem fun t => decide (t.underlay_rif = r)
    have hover := Tree.countP_erase h.keyed hmem fun t => decide (t.overlay_rif = r)
    rw [hback.rifs, h.rifs, rifTunnels, rifTunnels, hback.tunnels,
      Tree.countP_insert _ o tunnel fun t => decide (t.underlay_rif = r),
      Tree.countP_insert _ o tunnel fun t => decide (t.overlay_rif = r), ← hunder, ← hover]
  · rw [hback.nhs]
    exact h.listed o' t (hget o' ▸ ho') href

theorem TunnelsInv.mod (h : TunnelsInv fib₀ db) {f : TunnelObj → TunnelObj}
    (hunder : ∀ t, (f t).underlay_rif = t.underlay_rif) (hover : ∀ t, (f t).overlay_rif = t.overlay_rif)
    (hlisted : BridgePortsListed (db.modTunnel o f) o) : TunnelsInv fib₀ (db.modTunnel o f) := by
  have hget : ∀ o', (db.modTunnel o f).tunnelObjGet o' =
    if o' = o then (db.tunnelObjGet o').map f else db.tunnelObjGet o' := fun o' => Tree.find_modify ..
  have hsome : ∀ o', ((db.modTunnel o f).tunnelObjGet o').isSome = (db.tunnelObjGet o').isSome := by
    intro o'
    rw [hget]
    split
    · exact Option.isSome_map
    · rfl
  refine ⟨fun o' => ?_, fun j hj => ?_, fun o' ho' => h.ids o' (hsome o' ▸ ho'), ?_, fun r => ?_,
    fun o' => ?_⟩
  · rw [hsome]
    exact h.npu o'
  · rw [hsome]
    exact h.used j hj
  · show (List.map Prod.fst (Tree.modify db.tunnels o f)).Nodup
    rw [Tree.keys_modify]
    exact h.keyed
  · refine (h.rifs r).trans ?_
    have hu : ((Tree.modify db.tunnels o f).countP fun x => decide (x.2.underlay_rif = r)) = _ :=
      Tree.countP_modify db.tunnels o (p := fun t => decide (t.underlay_rif = r)) fun t => by rw [hunder]
    have ho : ((Tree.modify db.tunnels o f).countP fun x => decide (x.2.overlay_rif = r)) = _ :=
      Tree.countP_modify db.tunnels o (p := fun t => decide (t.overlay_rif = r)) fun t => by rw [hover]
    rw [rifTunnels, rifTunnels]
    show _ = Option.map (· + (List.countP _ (Tree.modify db.tunnels o f) +
      List.countP _ (Tree.modify db.tunnels o f))) _
    rw [hu, ho]
  · by_cases heq : o' = o
    · rw [heq]
      exact hlisted
    intro tunnel ho' href
    rw [hget, if_neg heq] at ho'
    exact h.listed o' tunnel ho' href

theorem TunnelsInv.modEncapNhs (h : TunnelsInv fib₀ db) {f : List Ptr → List Ptr}
    (hlisted : BridgePortsListed (db.modEncapNhs o f) o) : TunnelsInv fib₀ (db.modEncapNhs o f) := by
  refine ⟨h.npu, h.used, h.ids, h.keyed, h.rifs, fun o' => ?_⟩
  by_cases heq : o' = o
  · rw [heq]
    exact hlisted
  intro tunnel ho' href
  have hsame : (db.modEncapNhs o f).encapNhs o' = db.encapNhs o' := by
    show ((if o' = o then _ else db.fib.tunnels o') : Option Tunnel).elim [] _ = _
    rw [if_neg heq]
    rfl
  rw [hsame]
  exact h.listed o' tunnel ho' href

theorem tunnelStep_inv {op} (h : TunnelsInv fib₀ db) (hfits : TunnelOpFits op db) :
    TunnelsInv fib₀ (tunnelStep max_id op db) := by
  cases op with
  | create env attr_list =>
    rcases tunnelCreate_cases env hfits (fun i hi => h.free hi) with
      ⟨-, honly⟩ | ⟨-, i, tunnel, db₁, hi, -, htunnel, hadded⟩
    · exact h.only honly
    · refine h.added hi ?_ hadded
      rw [htunnel]
      exact (tunnelAttrSet_unused env _ _ _).2
  | remove env tunnel_id =>
    show TunnelsInv fib₀ (tunnelRemove env tunnel_id db).2
    rcases tunnelRemove_cases env hfits with
      ⟨-, hsame⟩ | ⟨tunnel, hget, -, -, ⟨-, -, hback⟩ | ⟨-, hdropped⟩⟩
    · rw [hsame]
      exact h
    · exact h.restored hget hback
    · exact h.dropped hget hdropped
  | use tunnel_id user =>
    cases user with
    | encapNh nh => exact h.modEncapNhs hfits
    | termEntry term_id => exact h.mod (fun _ => rfl) (fun _ => rfl) hfits
    | bridgePort => exact h.mod (fun _ => rfl) (fun _ => rfl) hfits
  | leave tunnel_id user =>
    cases user with
    | encapNh nh => exact h.modEncapNhs hfits
    | termEntry term_id => exact h.mod (fun _ => rfl) (fun _ => rfl) hfits
    | bridgePort => exact h.mod (fun _ => rfl) (fun _ => rfl) hfits

theorem TunnelsInv.exact (h : TunnelsInv fib₀ db) : TunnelsExact fib₀ db where
  npu := h.npu
  ids := fun o => by
    refine ⟨fun ho => ⟨o.id, h.ids o ho⟩, ?_⟩
    rintro ⟨i, rfl, hi⟩
    exact h.used i hi
  distinct := h.keyed
  rifs := h.rifs
  removable := fun o tunnel env hget hnpu => by
    have hid := (h.ids o (by rw [hget]; rfl)).1
    rw [tunnelRemove_success_iff env (by rw [hid]; rfl) hget hnpu]
    refine ⟨fun ⟨hnhs, hterms⟩ => ⟨hnhs, hterms, ?_⟩, fun hunused => ⟨hunused.1, hunused.2.1⟩⟩
    by_cases href : tunnel.ref_count = 0
    · exact href
    · exact ((h.listed o tunnel hget (by omega)).elim (fun h => h hnhs) fun h => h hterms).elim

end Steps

/-- **Tunnels match the NPU and their router interfaces**, in every run of steps that keep them exact. -/
theorem tunnelsExact_of_run (max_id : Nat) (fib₀ : Fib) (bridges : Oid → Option Nat) {db : TunnelDb}
    (hrun : Run (tunnelStep max_id) TunnelOpFits (.initial fib₀ bridges) db) : TunnelsExact fib₀ db :=
  (hrun.induct (fun op _ h hfits => tunnelStep_inv h hfits)
    TunnelsInv.initial).exact

theorem tunnelsExact_of_run_portLeaves :
    TunnelsExact (oneRif .port ⟨.port, 1⟩)
      (tunnelStep 4 (.leave (tunnelId 1) .bridgePort) (tunnelStep 4 (.use (tunnelId 1) .bridgePort)
        (tunnelStep 4 (.use (tunnelId 1) (.encapNh 7)) (tunnelStep 4
          (.create .good [.type .ipinip, .underlayInterface ⟨.routerInterface, 1⟩])
          (.initial (oneRif .port ⟨.port, 1⟩) fun _ => none))))) := by
  have hcreate : Run (tunnelStep 4) TunnelOpFits (.initial (oneRif .port ⟨.port, 1⟩) fun _ => none) _ :=
    .one (.create .good [.type .ipinip, .underlayInterface ⟨.routerInterface, 1⟩])
      (by exact fun _ _ _ => rfl)
  have hlisted : ∀ db : TunnelDb, db.encapNhs (tunnelId 1) = [7] → BridgePortsListed db (tunnelId 1) := by
    intro db hnhs tunnel _ _
    rw [hnhs]
    exact .inl (by simp)
  have hnh := hcreate.snoc (.use (tunnelId 1) (.encapNh 7)) (by exact hlisted _ rfl)
  have hport := hnh.snoc (.use (tunnelId 1) .bridgePort) (by exact hlisted _ rfl)
  have hleave := hport.snoc (.leave (tunnelId 1) .bridgePort) (by exact hlisted _ rfl)
  exact tunnelsExact_of_run 4 _ _ hleave

/-- The tree does not take a tunnel that the NPU took: the NPU has it, and the tree does not. -/
theorem not_tunnelsExact : ¬ ∀ (max_id : Nat) (fib₀ : Fib) (bridges : Oid → Option Nat) (db : TunnelDb),
    Run (tunnelStep max_id) (fun _ _ => True) (.initial fib₀ bridges) db → TunnelsExact fib₀ db := by
  intro h
  have hrun : Run (tunnelStep 4) (fun _ _ => True) (.initial (.init 4) fun _ => none) _ :=
    .one (.create { TunnelEnv.good with
      outside := fun _ c => if c = .tunnelInsert (tunnelId 1) then .failure else .success } [.type .ipinip])
      trivial
  have hnpu := (h 4 _ _ _ hrun).npu (tunnelId 1)
  revert hnpu
  decide

end OpxSai
