import Mathlib.Logic.Basic
import OpxSai.Tunnel.Tunnel

/-!
# What the attributes of a tunnel touch

The attributes of a tunnel are stored in its node. The lists of maps also change the maps, and nothing else.

* `OnlyMaps` — nothing differs but the maps and the calls that left the module.
-/

variable (db : TunnelDb) (env : TunnelEnv)

namespace OpxSai

open TunnelDb
variable {c : TunnelCall} {is_encap : Bool} {tunnel : TunnelObj} {o : Oid}

structure OnlyMaps (db db' : TunnelDb) : Prop where
  fib : db'.fib = db.fib
  tunnels : db'.tunnels = db.tunnels
  tunnel_id_bitmap : db'.tunnel_id_bitmap = db.tunnel_id_bitmap
  entries : db'.entries = db.entries
  terms : db'.terms = db.terms
  term_id_bitmap : db'.term_id_bitmap = db.term_id_bitmap
  bridges : db'.bridges = db.bridges
  npu_tunnels : db'.npu_tunnels = db.npu_tunnels
  npu_entries : db'.npu_entries = db.npu_entries
  npu_terms : db'.npu_terms = db.npu_terms

namespace OnlyMaps

theorem refl : OnlyMaps db db := ⟨rfl, rfl, rfl, rfl, rfl, rfl, rfl, rfl, rfl, rfl⟩

theorem trans {db₁ db₂ db₃} (h : OnlyMaps db₁ db₂) (h' : OnlyMaps db₂ db₃) :
    OnlyMaps db₁ db₃ where
  fib := h'.fib.trans h.fib
  tunnels := h'.tunnels.trans h.tunnels
  tunnel_id_bitmap := h'.tunnel_id_bitmap.trans h.tunnel_id_bitmap
  entries := h'.entries.trans h.entries
  terms := h'.terms.trans h.terms
  term_id_bitmap := h'.term_id_bitmap.trans h.term_id_bitmap
  bridges := h'.bridges.trans h.bridges
  npu_tunnels := h'.npu_tunnels.trans h.npu_tunnels
  npu_entries := h'.npu_entries.trans h.npu_entries
  npu_terms := h'.npu_terms.trans h.npu_terms

theorem modMap (map_id) (f : TunnelMap → TunnelMap) (db) :
    OnlyMaps db (db.modMap map_id f) :=
  ⟨rfl, rfl, rfl, rfl, rfl, rfl, rfl, rfl, rfl, rfl⟩

theorem call (db) (env) (hc : ∀ db' : TunnelDb, db'.apply c = db') :
    OnlyMaps db (db.call env c).2 := by
  simp only [TunnelDb.call, hc]
  split <;> exact ⟨rfl, rfl, rfl, rfl, rfl, rfl, rfl, rfl, rfl, rfl⟩

end OnlyMaps

theorem call_maps (c) : (db.call env c).2.maps = db.maps := by
  simp only [TunnelDb.call]
  split
  · cases c <;> rfl
  · rfl

section Frame

variable (env : TunnelEnv) (tunnel_id : Oid)

theorem tunnelMapperLeave_only {map_id} {db} :
    OnlyMaps db (tunnelMapperLeave env tunnel_id map_id db) := by
  have hcall := OnlyMaps.call db env (show ∀ db', apply db' (.mapDepTunnelRemove map_id tunnel_id) = db' from
    fun _ => rfl)
  simp only [tunnelMapperLeave]
  split
  · exact .refl db
  split
  · exact (hcall.trans (.modMap ..)).trans (.modMap ..)
  · exact hcall.trans (.modMap ..)

theorem tunnelMapperClean_only (objlist) :
    ∀ db, OnlyMaps db (tunnelMapperClean env tunnel_id objlist db) := by
  induction objlist with
  | nil => exact fun db => .refl db
  | cons map_id objlist ih => exact fun db => (tunnelMapperLeave_only env _).trans (ih _)

theorem tunnelMapperTake_only (objlist) :
    ∀ map_found new_objlist db,
      OnlyMaps db (tunnelMapperTake env tunnel_id is_encap objlist map_found new_objlist db).2.2 := by
  induction objlist with
  | nil => exact fun _ _ db => .refl db
  | cons map_id objlist ih =>
    intro map_found new_objlist db
    have hcall := OnlyMaps.call db env (show ∀ db', apply db' (.mapDepTunnelAdd map_id tunnel_id) = db' from
      fun _ => rfl)
    simp only [tunnelMapperTake]
    split
    · exact .refl db
    split
    · exact .refl db
    split
    · exact .refl db
    split
    · exact hcall
    · exact (hcall.trans (.modMap ..)).trans (ih _ _ _)

theorem tunnelMapperSet_only {objlist} {db} :
    OnlyMaps db (tunnelMapperSet env tunnel_id is_encap objlist tunnel db).2.2 := by
  simp only [tunnelMapperSet]
  split
  · exact .refl db
  split
  · exact .refl db
  split
  · exact (tunnelMapperTake_only env _ _ _ _ db).trans (tunnelMapperClean_only ..)
  · exact tunnelMapperTake_only env _ _ _ _ db

theorem tunnelMappersClean_only (tunnel) (db) :
    OnlyMaps db (tunnelMappersClean env tunnel_id tunnel db).2 :=
  (tunnelMapperClean_only ..).trans (tunnelMapperClean_only ..)

theorem tunnelAttrStore_only (attr) (tunnel) (db) :
    OnlyMaps db (tunnelAttrStore env tunnel_id attr tunnel db).2.2 := by
  cases attr with
  | encapMappers objlist => exact tunnelMapperSet_only env _
  | decapMappers objlist => exact tunnelMapperSet_only env _
  | _ => exact .refl db

/-- **What the attributes keep**: an attribute that is stored keeps it, and so does a call that checks one, and
the way back. -/
theorem tunnelAttrSet_induct {P : TunnelObj → TunnelDb → Prop} (hstore : ∀ attr tunnel db, P tunnel db →
      P (tunnelAttrStore env tunnel_id attr tunnel db).2.1 (tunnelAttrStore env tunnel_id attr tunnel db).2.2)
    (hcall : ∀ tunnel db db', OnlyMaps db db' → P tunnel db → P tunnel db')
    (hclean : ∀ tunnel db, P tunnel db → P ((tunnel.setMappers true []).setMappers false []) db)
    {db} (h : P tunnel db) (attr_list) :
    P (tunnelAttrSet env tunnel_id attr_list tunnel db).2.1 (tunnelAttrSet env tunnel_id attr_list tunnel db).2.2 := by
  have hwalk : ∀ (attr_list : List TunnelAttr) attr_idx status tunnel db, P tunnel db →
      P (tunnelAttrWalk env tunnel_id attr_idx attr_list status tunnel db).2.1
        (tunnelAttrWalk env tunnel_id attr_idx attr_list status tunnel db).2.2 := by
    intro attr_list
    induction attr_list with
    | nil => exact fun _ _ _ _ h => h
    | cons attr attr_list ih =>
      intro attr_idx status tunnel db h
      have hstored := hstore attr tunnel db h
      have hchecked := hcall _ _ _ (OnlyMaps.call _ env
        (c := .tunnelObjAttrValidate attr) fun _ => rfl) hstored
      simp only [tunnelAttrWalk]
      split
      · exact hstored
      split
      · exact hchecked
      · exact ih _ _ _ _ hchecked
  have hwalked := hwalk attr_list 0 .failure tunnel db h
  simp only [tunnelAttrSet]
  split
  · exact hclean _ _ (hcall _ _ _ (tunnelMappersClean_only ..) hwalked)
  · exact hwalked

theorem tunnelAttrSet_only (attr_list) (tunnel) (db) :
    OnlyMaps db (tunnelAttrSet env tunnel_id attr_list tunnel db).2.2 :=
  tunnelAttrSet_induct (P := fun _ db' => OnlyMaps db db') env tunnel_id
    (fun _ _ _ h => h.trans (tunnelAttrStore_only ..)) (fun _ _ _ hkept h => h.trans hkept) (fun _ _ h => h)
    (.refl db) attr_list

/-- **What one attribute writes**: a field of the tunnel, a live router interface, or a list of maps. -/
theorem tunnelAttrStore_induct {P : TunnelObj → Prop} {attr} {db}
    (h : P tunnel) (htype : ∀ t, P { tunnel with tunnel_type := t }) (hsip : ∀ ip, P { tunnel with src_ip := ip })
    (hqos : ∀ is_encap f, P (tunnel.setQos is_encap f)) (hunderlay : ∀ oid rif, db.fib.rif oid = some rif →
      P { tunnel with underlay_vrf := rif.vrf_id, underlay_rif := oid })
    (hoverlay : ∀ oid vrf, P { tunnel with overlay_vrf := vrf, overlay_rif := oid })
    (hmappers : ∀ is_encap objlist, (attr = .encapMappers objlist ∧ is_encap = true) ∨
      (attr = .decapMappers objlist ∧ is_encap = false) → ∀ l, P (tunnel.setMappers is_encap l)) :
    P (tunnelAttrStore env tunnel_id attr tunnel db).2.1 := by
  have hmapped : ∀ is_encap objlist, (∀ l, P (tunnel.setMappers is_encap l)) →
      P (tunnelMapperSet env tunnel_id is_encap objlist tunnel db).2.1 := by
    intro is_encap objlist hset
    simp only [tunnelMapperSet]
    split
    · exact h
    split
    · exact hset _
    split <;> exact hset _
  have hintf : ∀ is_underlay oid, P (tunnelIntfSet is_underlay oid tunnel db.fib).2 := by
    intro is_underlay oid
    simp only [tunnelIntfSet]
    split
    · exact h
    split
    · exact h
    rename_i rif hrif
    cases is_underlay with
    | false => exact hoverlay oid rif.vrf_id
    | true => exact hunderlay oid rif hrif
  have httl : ∀ is_encap s32, P (tunnelTtlModeSet is_encap s32 tunnel).2 := by
    intro is_encap s32
    cases s32 with
    | uniform => exact hqos is_encap fun qos => { qos with ttl_mode := .uniform }
    | pipe => exact hqos is_encap fun qos => { qos with ttl_mode := .pipe }
    | other _ => exact h
  have hdscp : ∀ is_encap s32, P (tunnelDscpModeSet is_encap s32 tunnel).2 := by
    intro is_encap s32
    cases s32 with
    | uniform => exact hqos is_encap fun qos => { qos with dscp_mode := .uniform }
    | pipe => exact hqos is_encap fun qos => { qos with dscp_mode := .pipe }
    | other _ => exact h
  cases attr with
  | type s32 => cases s32 <;> first | exact htype _ | exact h
  | underlayInterface oid => exact hintf true oid
  | overlayInterface oid => exact hintf false oid
  | encapSrcIp ipaddr =>
    simp only [tunnelAttrStore, tunnelEncapSipSet]
    split
    · exact hsip ipaddr
    · exact h
  | encapTtlMode s32 => exact httl true s32
  | decapTtlMode s32 => exact httl false s32
  | encapDscpMode s32 => exact hdscp true s32
  | decapDscpMode s32 => exact hdscp false s32
  | encapTtlVal u8 =>
    simp only [tunnelAttrStore, tunnelTtlSet]
    split
    · exact h
    · exact hqos true fun qos => { qos with ttl := u8 }
  | encapDscpVal u8 =>
    simp only [tunnelAttrStore, tunnelDscpSet]
    split
    · exact h
    · exact hqos true fun qos => { qos with dscp := u8 }
  | encapMappers objlist => exact hmapped true objlist (hmappers true objlist (.inl ⟨rfl, rfl⟩))
  | decapMappers objlist => exact hmapped false objlist (hmappers false objlist (.inr ⟨rfl, rfl⟩))
  | unknown id => exact h

theorem tunnelAttrSet_unused (attr_list) (db) :
    let tunnel := (tunnelAttrSet env tunnel_id attr_list .zero db).2.1
    tunnel.tunnel_term_entry_list = [] ∧ tunnel.ref_count = 0 := by
  refine tunnelAttrSet_induct (P := fun t _ => t.tunnel_term_entry_list = [] ∧ t.ref_count = 0) env tunnel_id ?_
    (fun _ _ _ _ h => h) (fun _ _ h => h) ⟨rfl, rfl⟩ attr_list
  intro attr t db' h
  exact tunnelAttrStore_induct (P := fun t' => t'.tunnel_term_entry_list = [] ∧ t'.ref_count = 0) env tunnel_id h
    (fun _ => h) (fun _ => h) (fun is_encap f => by cases is_encap <;> exact h) (fun _ _ _ => h) (fun _ _ => h)
    fun is_encap _ _ l => by cases is_encap <;> exact h

end Frame

/-! ## The calls -/

def TunnelTreeTakes : Prop :=
  ∀ log o, env.outside log (.tunnelObjCreate o) = .success →
    env.outside (env.outside.log (.tunnelObjCreate o) log) (.tunnelInsert o) = .success

def TunnelTreeTakesBack : Prop :=
  ∀ log o, env.outside log (.tunnelObjRemove o) ≠ .success →
    env.outside (env.outside.log (.tunnelObjRemove o) log) (.tunnelInsert o) = .success

def TunnelDb.enterTunnel (i : Nat) (tunnel : TunnelObj) (db : TunnelDb) : TunnelDb :=
  (((db.addTunnel (tunnelId i) tunnel []).rifIncr tunnel.underlay_rif).rifIncr tunnel.overlay_rif).setTunnelIndex
    i false

def TunnelDb.giveBackTunnel (o : Oid) (tunnel : TunnelObj) (db : TunnelDb) : TunnelDb :=
  ((db.setTunnelIndex o.id true).rifDecr tunnel.underlay_rif).rifDecr tunnel.overlay_rif

variable {db : TunnelDb}

/-- **All that a create can do**: it stops before it sets attributes, or after, or it makes a tunnel. -/
inductive TunnelCreates (env : TunnelEnv) (attr_list : List TunnelAttr) (db : TunnelDb) :
    Status × Oid × TunnelDb → Prop where
  | early {rc : Status} {db₁ : TunnelDb} (bad : rc ≠ .success) (start : OnlyMaps db db₁)
      (maps : db₁.maps = db.maps) : TunnelCreates env attr_list db (rc, .null, db₁)
  | refused {rc : Status} {i : Nat} {db₁ db₂ : TunnelDb} {npu : Oid → Bool} (bad : rc ≠ .success)
      (index : db.tunnel_id_bitmap i = true) (start : OnlyMaps db db₁) (startMaps : db₁.maps = db.maps)
      (only : OnlyMaps { db with npu_tunnels := npu } db₂)
      (maps : db₂.maps = (tunnelAttrSet env (tunnelId i) attr_list .zero db₁).2.2.maps)
      (exact : TunnelTreeTakes env → db.tunnelObjGet (tunnelId i) = none → npu = db.npu_tunnels) :
      TunnelCreates env attr_list db (rc, .null,
        (tunnelMappersClean env (tunnelId i) (tunnelAttrSet env (tunnelId i) attr_list .zero db₁).2.1 db₂).2)
  | created {i : Nat} {db₁ db₂ : TunnelDb} (index : db.tunnel_id_bitmap i = true) (start : OnlyMaps db db₁)
      (startMaps : db₁.maps = db.maps) (fresh : db.tunnelObjGet (tunnelId i) = none)
      (set : (tunnelAttrSet env (tunnelId i) attr_list .zero db₁).1 = .success)
      (only : OnlyMaps { db with npu_tunnels := mark db.npu_tunnels (tunnelId i) true } db₂)
      (maps : db₂.maps = (tunnelAttrSet env (tunnelId i) attr_list .zero db₁).2.2.maps) :
      TunnelCreates env attr_list db (.success, tunnelId i,
        db₂.enterTunnel i (tunnelAttrSet env (tunnelId i) attr_list .zero db₁).2.1)

structure TunnelFree (o : Oid) (tunnel : TunnelObj) (db : TunnelDb) : Prop where
  type : o.type = .tunnel
  get : db.tunnelObjGet o = some tunnel
  nhs : db.encapNhs o = []
  terms : tunnel.tunnel_term_entry_list = []

/-- **All that a remove can do**: it is refused, the NPU keeps the tunnel and the tree takes it back or not, or
the tunnel goes. -/
inductive TunnelRemoves (env : TunnelEnv) (o : Oid) (db : TunnelDb) : Status × TunnelDb → Prop where
  | refused {rc : Status} (bad : rc ≠ .success) : TunnelRemoves env o db (rc, db)
  | restored {rc : Status} {tunnel : TunnelObj} {db₁ : TunnelDb} (free : TunnelFree o tunnel db)
      (bad : rc ≠ .success) (kept : ∃ log, env.outside log (.tunnelObjRemove o) ≠ .success)
      (only : OnlyMaps (db.dropTunnel o) db₁) (maps : db₁.maps = db.maps) :
      TunnelRemoves env o db (rc, db₁.addTunnel o tunnel (db.encapNhs o))
  | lost {rc : Status} {tunnel : TunnelObj} {db₁ : TunnelDb} (free : TunnelFree o tunnel db) (bad : rc ≠ .success)
      (kept : ∃ log, env.outside log (.tunnelObjRemove o) ≠ .success ∧
        env.outside (env.outside.log (.tunnelObjRemove o) log) (.tunnelInsert o) ≠ .success)
      (only : OnlyMaps (db.dropTunnel o) db₁) (maps : db₁.maps = db.maps) : TunnelRemoves env o db (rc, db₁)
  | gone {tunnel : TunnelObj} {db₁ : TunnelDb} (free : TunnelFree o tunnel db)
      (only : OnlyMaps { db.dropTunnel o with npu_tunnels := mark db.npu_tunnels o false } db₁)
      (maps : db₁.maps = db.maps) :
      TunnelRemoves env o db (.success, (tunnelMappersClean env o tunnel (db₁.giveBackTunnel o tunnel)).2)

section Calls

variable (env : TunnelEnv)

theorem call_npu_tunnels {b : Bool}
    (hc : ∀ db' : TunnelDb, db'.apply c = { db' with npu_tunnels := mark db'.npu_tunnels o b })
    (db) :
    ((db.call env c).1 ≠ .success ∧ OnlyMaps db (db.call env c).2) ∨
    ((db.call env c).1 = .success ∧
      OnlyMaps { db with npu_tunnels := mark db.npu_tunnels o b } (db.call env c).2) := by
  have hanswer : (db.call env c).1 = env.outside db.outside_log c := rfl
  simp only [TunnelDb.call, hc]
  split
  next hok => exact .inr ⟨hok, rfl, rfl, rfl, rfl, rfl, rfl, rfl, rfl, rfl, rfl⟩
  next hfail => exact .inl ⟨hfail, rfl, rfl, rfl, rfl, rfl, rfl, rfl, rfl, rfl, rfl⟩

theorem call_log (db : TunnelDb) (c : TunnelCall) :
    (db.call env c).2.outside_log = env.outside.log c db.outside_log := by
  simp only [TunnelDb.call]
  split
  · cases c <;> rfl
  · rfl

theorem OnlyMaps.marked {db'} (h : OnlyMaps db db') (npu : Oid → Bool) :
    OnlyMaps { db with npu_tunnels := npu } { db' with npu_tunnels := npu } :=
  ⟨h.fib, h.tunnels, h.tunnel_id_bitmap, h.entries, h.terms, h.term_id_bitmap, h.bridges, rfl, h.npu_entries,
    h.npu_terms⟩

theorem tunnelCreate_does {max_id : Nat} {attr_list} :
    TunnelCreates env attr_list db (tunnelCreate max_id env attr_list db) := by
  simp only [tunnelCreate]
  split
  next hbad => exact .early hbad (.refl db) rfl
  have hstart := OnlyMaps.call db env (c := .nodeAlloc) fun _ => rfl
  have hmaps := call_maps db env .nodeAlloc
  generalize db.call _ _ = alloc at hstart hmaps ⊢
  split
  · exact .early (by simp) hstart hmaps
  cases hfind : tunnelIndexFind max_id alloc.2.tunnel_id_bitmap with
  | none => exact .early (by simp) hstart hmaps
  | some i =>
    have hindex : db.tunnel_id_bitmap i = true := by
      have hsome := List.find?_some hfind
      rw [hstart.tunnel_id_bitmap] at hsome
      exact (Bool.and_eq_true_iff.mp hsome).2
    have honly := hstart.trans (tunnelAttrSet_only env (tunnelId i) attr_list .zero alloc.2)
    dsimp only
    generalize hset : tunnelAttrSet _ _ _ _ _ = set at honly ⊢
    have hback : ∀ {rc : Status} {db₂ : TunnelDb} {npu : Oid → Bool}, rc ≠ .success →
        OnlyMaps { db with npu_tunnels := npu } db₂ → db₂.maps = set.2.2.maps →
        (TunnelTreeTakes env → db.tunnelObjGet (tunnelId i) = none → npu = db.npu_tunnels) →
        TunnelCreates env attr_list db
          (if rc ≠ .success then (rc, Oid.null, (tunnelMappersClean env (tunnelId i) set.2.1 db₂).2)
            else (Status.success, tunnelId i, db₂)) := by
      intro rc db₂ npu hrc honly' hmaps' hexact
      rw [if_pos hrc, ← hset]
      exact .refused hrc hindex hstart hmaps honly' (hset ▸ hmaps') hexact
    by_cases hgood : set.1 = .success
    · rw [if_ok hgood]
      simp only [tunnelRegister]
      have hmade := call_npu_tunnels (c := .tunnelObjCreate (tunnelId i)) env (fun _ => rfl) set.2.2
      have hmademaps := call_maps set.2.2 env (.tunnelObjCreate (tunnelId i))
      have hlog := call_log env set.2.2 (.tunnelObjCreate (tunnelId i))
      have hanswer : (set.2.2.call env (.tunnelObjCreate (tunnelId i))).1 =
        env.outside set.2.2.outside_log (.tunnelObjCreate (tunnelId i)) := rfl
      generalize set.2.2.call _ _ = made at hmade hmademaps hlog hanswer ⊢
      rcases hmade with ⟨hfail, hkept⟩ | ⟨hok, hkept⟩
      · rw [if_pos hfail]
        exact hback hfail (honly.trans hkept) hmademaps fun _ _ => rfl
      rw [if_ok hok]
      have hins := OnlyMaps.call made.2 env (c := .tunnelInsert (tunnelId i)) fun _ => rfl
      have hinsmaps := call_maps made.2 env (.tunnelInsert (tunnelId i))
      have htakes : TunnelTreeTakes env → (made.2.call env (.tunnelInsert (tunnelId i))).1 = .success := by
        intro htree
        show env.outside made.2.outside_log _ = _
        rw [hlog]
        exact htree _ _ (hanswer.symm.trans hok)
      generalize made.2.call _ _ = inserted at hins hinsmaps htakes ⊢
      have hnpu := honly.npu_tunnels
      have hall : OnlyMaps { db with npu_tunnels := mark db.npu_tunnels (tunnelId i) true } inserted.2 := by
        rw [← hnpu]
        exact (honly.marked _).trans (hkept.trans hins)
      by_cases hbad : inserted.1 ≠ .success ∨ (inserted.2.tunnelObjGet (tunnelId i)).isSome = true
      · rw [if_pos hbad]
        refine hback (by simp) hall (hinsmaps.trans hmademaps) fun htree hfresh => ?_
        rcases hbad with hbad | hbad
        · exact absurd (htakes htree) hbad
        have hthere : (inserted.2.tunnelObjGet (tunnelId i)).isSome = false := by
          rw [tunnelObjGet, hall.tunnels]
          exact congrArg Option.isSome hfresh
        exact absurd (hthere.symm.trans hbad) (by decide)
      · rw [if_neg hbad, if_neg (by simp), ← hset]
        refine .created hindex hstart hmaps ?_ (hset ▸ hgood) hall (hset ▸ hinsmaps.trans hmademaps)
        have hnone := (not_or.mp hbad).2
        rw [tunnelObjGet, hall.tunnels] at hnone
        exact Option.not_isSome_iff_eq_none.mp hnone
    · rw [if_pos hgood]
      exact hback hgood honly rfl fun _ _ => rfl

theorem tunnelRemove_does : TunnelRemoves env o db (tunnelRemove env o db) := by
  simp only [tunnelRemove]
  split
  · exact .refused (by simp)
  rename_i htype
  split
  · exact .refused (by simp)
  rename_i tunnel hget
  split
  · exact .refused (by simp)
  rename_i hlisted
  have hfree : TunnelFree o tunnel db :=
    ⟨not_not.mp htype, hget, not_not.mp (not_or.mp hlisted).1, not_not.mp (not_or.mp hlisted).2⟩
  have hremoved := call_npu_tunnels (c := .tunnelObjRemove o) env (fun _ => rfl) (db.dropTunnel o)
  have hmaps := call_maps (db.dropTunnel o) env (.tunnelObjRemove o)
  have hlog := call_log env (db.dropTunnel o) (.tunnelObjRemove o)
  have hanswer : ((db.dropTunnel o).call env (.tunnelObjRemove o)).1 =
    env.outside db.outside_log (.tunnelObjRemove o) := rfl
  generalize (db.dropTunnel o).call _ _ = removed at hremoved hmaps hlog hanswer ⊢
  rcases hremoved with ⟨hfail, honly⟩ | ⟨hok, honly⟩
  · rw [if_pos hfail]
    have hins := honly.trans (OnlyMaps.call removed.2 env (c := .tunnelInsert o) fun _ => rfl)
    have hinsmaps := (call_maps removed.2 env (.tunnelInsert o)).trans hmaps
    have hagain : (removed.2.call env (.tunnelInsert o)).1 =
      env.outside removed.2.outside_log (.tunnelInsert o) := rfl
    generalize removed.2.call _ _ = inserted at hins hinsmaps hagain ⊢
    split
    · exact .restored hfree hfail ⟨_, hanswer ▸ hfail⟩ hins hinsmaps
    rename_i hlost
    refine .lost hfree hfail ⟨db.outside_log, hanswer ▸ hfail, ?_⟩ hins hinsmaps
    rw [hagain, hlog] at hlost
    exact hlost
  · rw [if_ok hok]
    exact .gone hfree honly hmaps

end Calls

end OpxSai
