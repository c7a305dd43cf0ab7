import OpxSai.Tunnel.TunnelFrame
import OpxSai.Tunnel.TunnelMap

/-!
# What a tunnel does to the counts of its maps

A map counts each place that it has on a list of a tunnel. The lists are filled map by map while the
attributes of the tunnel are set, and are given back when anything fails, and when the tunnel goes.
-/

namespace OpxSai

open TunnelDb

def TunnelObj.mappers (is_encap : Bool) (tunnel : TunnelObj) : List Oid :=
  if is_encap = true then tunnel.tunnel_encap_mapper_list else tunnel.tunnel_decap_mapper_list

/-- The places that a map has on the lists of a tunnel. -/
def TunnelObj.mapperCount (tunnel : TunnelObj) (map_id : Oid) : Nat :=
  tunnel.tunnel_encap_mapper_list.count map_id + tunnel.tunnel_decap_mapper_list.count map_id

def TunnelMap.core (m : TunnelMap) : TunnelMap := { m with dep_tunnels := [] }

def TunnelMap.addRefs (n : Nat) (m : TunnelMap) : TunnelMap := { m with ref_count := m.ref_count + n }

def TunnelMap.subRefs (n : Nat) (m : TunnelMap) : TunnelMap := { m with ref_count := m.ref_count - n }

/-- The maps count so much more than before, and are otherwise as they were. -/
structure MapsCounted (n : Oid → Nat) (db db' : TunnelDb) : Prop where
  maps : ∀ m, (db'.maps m).map TunnelMap.core = (db.maps m).map fun k => (k.addRefs (n m)).core
  live : ∀ m, n m ≠ 0 → (db.maps m).isSome = true

section Counts

variable {db₀ db : TunnelDb} {n : Oid → Nat}

theorem MapsCounted.refl (db) : MapsCounted (fun _ => 0) db db :=
  ⟨fun _ => rfl, fun _ h => absurd rfl h⟩

theorem MapsCounted.congr (h : MapsCounted n db₀ db) {n' : Oid → Nat} (hn : ∀ m, n' m = n m) :
    MapsCounted n' db₀ db := by
  rw [show n' = n from funext hn]
  exact h

theorem MapsCounted.of_maps (h : MapsCounted n db₀ db) {db'} (hmaps : db'.maps = db.maps) :
    MapsCounted n db₀ db' :=
  ⟨fun m => by rw [hmaps]; exact h.maps m, h.live⟩

theorem MapsCounted.isSome (h : MapsCounted n db₀ db) (m) : (db.maps m).isSome = (db₀.maps m).isSome := by
  have hmaps := congrArg Option.isSome (h.maps m)
  simpa only [Option.isSome_map] using hmaps

theorem MapsCounted.up (h : MapsCounted n db₀ db) {map_id} (hlive : (db.maps map_id).isSome = true)
    {f : TunnelMap → TunnelMap} (hf : ∀ k, (f k).core = (k.addRefs 1).core) :
    MapsCounted (fun m => n m + if m = map_id then 1 else 0) db₀ (db.modMap map_id f) := by
  refine ⟨fun m => ?_, fun m hm => ?_⟩
  · show (if m = map_id then (db.maps m).map f else db.maps m).map TunnelMap.core = _
    by_cases heq : m = map_id
    · simp only [if_pos heq, Option.map_map]
      have hmaps := congrArg (Option.map (TunnelMap.addRefs 1)) (h.maps m)
      simp only [Option.map_map] at hmaps
      refine Eq.trans ?_ (hmaps.trans ?_)
      · exact congrArg (fun g => Option.map g (db.maps m)) (funext hf)
      · rfl
    · simp only [if_neg heq]
      exact h.maps m
  · by_cases heq : m = map_id
    · rw [heq, ← h.isSome]
      exact hlive
    · simp only [if_neg heq] at hm
      exact h.live m hm

theorem MapsCounted.down {map_id} (h : MapsCounted (fun m => n m + if m = map_id then 1 else 0) db₀ db)
    {f : TunnelMap → TunnelMap} (hf : ∀ k, (f k).core = (k.subRefs 1).core) :
    MapsCounted n db₀ (db.modMap map_id f) := by
  refine ⟨fun m => ?_, fun m hm => h.live m (by omega)⟩
  have hmaps := h.maps m
  show (if m = map_id then (db.maps m).map f else db.maps m).map TunnelMap.core = _
  by_cases heq : m = map_id
  · simp only [if_pos heq, Option.map_map] at hmaps ⊢
    have hless := congrArg (Option.map (TunnelMap.subRefs 1)) hmaps
    simp only [Option.map_map] at hless
    refine Eq.trans ?_ (hless.trans ?_)
    · exact congrArg (fun g => Option.map g (db.maps m)) (funext hf)
    · refine congrArg (fun g => Option.map g (db₀.maps m)) (funext fun k => ?_)
      show { k with ref_count := k.ref_count + (n m + 1) - 1, dep_tunnels := [] } = (k.addRefs (n m)).core
      rfl
  · simp only [if_neg heq] at hmaps ⊢
    exact hmaps

end Counts

/-! ## The lists of a tunnel -/

theorem count_cons_oid (o a : Oid) (l : List Oid) : (a :: l).count o = l.count o + if o = a then 1 else 0 := by
  by_cases h : o = a
  · rw [h, List.count_cons_self, if_pos rfl]
  · rw [List.count_cons_of_ne (Ne.symm h), if_neg h, Nat.add_zero]

theorem count_concat_oid (o a : Oid) (l : List Oid) :
    (l ++ [a]).count o = l.count o + if o = a then 1 else 0 := by
  rw [List.count_append, count_cons_oid, List.count_nil, Nat.zero_add]

section Lists

variable (env : TunnelEnv) (tunnel_id : Oid)

theorem tunnelMapperTake_counted (is_encap : Bool) {n : Oid → Nat} {db₀} (objlist : List Oid) :
    ∀ map_found new_objlist db, MapsCounted (fun m => n m + new_objlist.count m) db₀ db →
      MapsCounted (fun m =>
        n m + (tunnelMapperTake env tunnel_id is_encap objlist map_found new_objlist db).2.1.count m) db₀
        (tunnelMapperTake env tunnel_id is_encap objlist map_found new_objlist db).2.2 := by
  induction objlist with
  | nil => exact fun _ _ _ h => h
  | cons map_id objlist ih =>
    intro map_found new_objlist db h
    simp only [tunnelMapperTake]
    split
    · exact h
    rename_i m hm
    split
    · exact h
    split
    · exact h
    have hcall := h.of_maps (call_maps db env (.mapDepTunnelAdd map_id tunnel_id))
    split
    · exact hcall
    have hup := hcall.up (f := fun m =>
      { m with dep_tunnels := m.dep_tunnels ++ [tunnel_id], ref_count := m.ref_count + 1 })
      (by rw [call_maps, hm]; rfl) fun _ => rfl
    exact ih _ _ _ (hup.congr fun m => by rw [count_concat_oid, Nat.add_assoc])

variable {is_encap : Bool} {tunnel : TunnelObj} {db₀ : TunnelDb} {n : Oid → Nat}

theorem tunnelMapperLeave_counted {db₀ db} {map_id}
    (h : MapsCounted (fun m => n m + if m = map_id then 1 else 0) db₀ db) :
    MapsCounted n db₀ (tunnelMapperLeave env tunnel_id map_id db) := by
  have hcall := h.of_maps (call_maps db env (.mapDepTunnelRemove map_id tunnel_id))
  simp only [tunnelMapperLeave]
  split
  next hnone =>
    have hlive := h.isSome map_id
    rw [h.live _ (by simp), hnone] at hlive
    cases hlive
  split
  · -- the tunnels of a map are not counted here
    have hdeps : MapsCounted (fun m => n m + if m = map_id then 1 else 0) db₀
        ((db.call env (.mapDepTunnelRemove map_id tunnel_id)).2.modMap map_id fun m =>
          { m with dep_tunnels := m.dep_tunnels.erase tunnel_id }) := by
      refine ⟨fun m => Eq.trans ?_ (hcall.maps m), hcall.live⟩
      show (if m = map_id then Option.map _ _ else _ : Option TunnelMap).map TunnelMap.core = _
      split
      · rw [Option.map_map]
        rfl
      · rfl
    exact hdeps.down fun _ => rfl
  · exact hcall.down fun _ => rfl

theorem tunnelMapperClean_counted {objlist} : ∀ {db},
    MapsCounted (fun m => n m + objlist.count m) db₀ db →
      MapsCounted n db₀ (tunnelMapperClean env tunnel_id objlist db) := by
  induction objlist with
  | nil => exact fun h => h
  | cons map_id objlist ih =>
    intro db h
    refine ih (tunnelMapperLeave_counted env _ (h.congr fun m => ?_))
    rw [count_cons_oid, Nat.add_assoc]

theorem mapperCount_setMappers {is_encap : Bool} {objlist : List Oid} {tunnel : TunnelObj} {m : Oid} :
    (tunnel.setMappers is_encap objlist).mapperCount m =
      (tunnel.mappers !is_encap).count m + objlist.count m := by
  cases is_encap
  · rfl
  · exact Nat.add_comm _ _

theorem mapperCount_of_nil (h : tunnel.mappers is_encap = []) (m) :
    tunnel.mapperCount m = (tunnel.mappers !is_encap).count m := by
  cases is_encap with
  | false =>
    change tunnel.tunnel_decap_mapper_list = [] at h
    rw [TunnelObj.mapperCount, h]
    rfl
  | true =>
    change tunnel.tunnel_encap_mapper_list = [] at h
    rw [TunnelObj.mapperCount, h, List.count_nil, Nat.zero_add]
    rfl

theorem tunnelMapperSet_counted {objlist : Option (List Oid)} {tunnel : TunnelObj}
    {db₀ db : TunnelDb} (hempty : tunnel.mappers is_encap = []) (h : MapsCounted tunnel.mapperCount db₀ db) :
    let x := tunnelMapperSet env tunnel_id is_encap objlist tunnel db
    MapsCounted x.2.1.mapperCount db₀ x.2.2 := by
  have hbase : MapsCounted (fun m => (tunnel.mappers !is_encap).count m + ([] : List Oid).count m) db₀ db :=
    h.congr fun m => (mapperCount_of_nil hempty m).symm
  intro x
  have hx : tunnelMapperSet env tunnel_id is_encap objlist tunnel db = x := rfl
  clear_value x
  unfold tunnelMapperSet at hx
  split at hx
  · subst hx
    exact h
  rename_i objlist
  split at hx
  · subst hx
    exact hbase.congr fun m => mapperCount_setMappers
  have htake := tunnelMapperTake_counted env tunnel_id is_encap objlist false [] db hbase
  generalize tunnelMapperTake _ _ _ _ _ _ _ = taken at hx htake
  dsimp only at hx
  split at hx
  · subst hx
    refine (tunnelMapperClean_counted env tunnel_id htake).congr fun m => ?_
    exact mapperCount_setMappers
  · subst hx
    exact htake.congr fun m => mapperCount_setMappers

theorem tunnelMappersClean_counted {db} (h : MapsCounted tunnel.mapperCount db₀ db) :
    MapsCounted (fun _ => 0) db₀ (tunnelMappersClean env tunnel_id tunnel db).2 := by
  refine tunnelMapperClean_counted env _ ?_
  refine tunnelMapperClean_counted env _ (h.congr fun m => ?_)
  show 0 + _ + _ = tunnel.tunnel_encap_mapper_list.count m + _
  omega

end Lists

/-! ## The attributes of a tunnel -/

def TunnelAttr.isMappers (is_encap : Bool) : TunnelAttr → Bool
  | .encapMappers _ => is_encap
  | .decapMappers _ => !is_encap
  | _ => false

section Attributes

variable (env : TunnelEnv) (tunnel_id : Oid)

theorem tunnelAttrStore_plain {attr} (hattr : ∀ is_encap, attr.isMappers is_encap = false)
    {tunnel} {db} :
    (∀ is_encap, (tunnelAttrStore env tunnel_id attr tunnel db).2.1.mappers is_encap = tunnel.mappers is_encap) ∧
      (tunnelAttrStore env tunnel_id attr tunnel db).2.2 = db := by
  constructor
  · refine tunnelAttrStore_induct (P := fun t => ∀ d, t.mappers d = tunnel.mappers d) env tunnel_id (fun _ => rfl)
      (fun _ _ => rfl) (fun _ _ => rfl) (fun is_encap f d => by cases is_encap <;> rfl) (fun _ _ _ _ => rfl)
      (fun _ _ _ => rfl) fun is_encap objlist hmappers => ?_
    rcases hmappers with ⟨rfl, rfl⟩ | ⟨rfl, rfl⟩
    · exact absurd (hattr true) (by simp [TunnelAttr.isMappers])
    · exact absurd (hattr false) (by simp [TunnelAttr.isMappers])
  · cases attr with
    | encapMappers objlist => exact absurd (hattr true) (by simp [TunnelAttr.isMappers])
    | decapMappers objlist => exact absurd (hattr false) (by simp [TunnelAttr.isMappers])
    | _ => rfl

theorem mappers_setMappers (is_encap d : Bool) (objlist : List Oid) (tunnel : TunnelObj) :
    (tunnel.setMappers is_encap objlist).mappers d = if d = is_encap then objlist else tunnel.mappers d := by
  cases is_encap <;> cases d <;> rfl

theorem tunnelMapperSet_mappers {is_encap d : Bool} (hd : d ≠ is_encap) {objlist}
    {tunnel} {db} :
    (tunnelMapperSet env tunnel_id is_encap objlist tunnel db).2.1.mappers d = tunnel.mappers d := by
  simp only [tunnelMapperSet]
  split
  · rfl
  split
  · rw [mappers_setMappers, if_neg hd]
  split <;> rw [mappers_setMappers, if_neg hd]

theorem tunnelAttrStore_counted {attr} {tunnel} {db₀ db}
    (hempty : ∀ is_encap, attr.isMappers is_encap = true → tunnel.mappers is_encap = [])
    (h : MapsCounted tunnel.mapperCount db₀ db) :
    let x := tunnelAttrStore env tunnel_id attr tunnel db
    MapsCounted x.2.1.mapperCount db₀ x.2.2 ∧
      ∀ is_encap, attr.isMappers is_encap = false → x.2.1.mappers is_encap = tunnel.mappers is_encap := by
  intro x
  cases hattr : attr.isMappers true with
  | true =>
    obtain ⟨objlist, rfl⟩ : ∃ objlist, attr = .encapMappers objlist := by
      cases attr <;> first | exact ⟨_, rfl⟩ | cases hattr
    refine ⟨tunnelMapperSet_counted env _ (hempty true rfl) h, fun d hd => ?_⟩
    exact tunnelMapperSet_mappers env _ (by rintro rfl; cases hd)
  | false =>
    cases hattr' : attr.isMappers false with
    | true =>
      obtain ⟨objlist, rfl⟩ : ∃ objlist, attr = .decapMappers objlist := by
        cases attr <;> first | exact ⟨_, rfl⟩ | cases hattr'
      refine ⟨tunnelMapperSet_counted env _ (hempty false rfl) h, fun d hd => ?_⟩
      exact tunnelMapperSet_mappers env _ (by rintro rfl; cases hd)
    | false =>
      obtain ⟨hmappers, hdb⟩ := tunnelAttrStore_plain env _ (fun d => by cases d <;> assumption)
      refine ⟨?_, fun d _ => hmappers d⟩
      have hcount : ∀ m, x.2.1.mapperCount m = tunnel.mapperCount m := fun m =>
        congrArg₂ (· + ·) (congrArg (List.count m) (hmappers true)) (congrArg (List.count m) (hmappers false))
      have hsame : x.2.2 = db := hdb
      rw [hsame]
      exact h.congr hcount

/-- The loop over the attributes, in which each list of maps is set at most once. -/
theorem tunnelAttrWalk_counted {db₀} (attr_list) : ∀ {attr_idx status tunnel db},
    (∀ is_encap, attr_list.countP (TunnelAttr.isMappers is_encap) ≤ 1) →
    (∀ is_encap, attr_list.countP (TunnelAttr.isMappers is_encap) ≠ 0 → tunnel.mappers is_encap = []) →
    MapsCounted tunnel.mapperCount db₀ db →
      let x := tunnelAttrWalk env tunnel_id attr_idx attr_list status tunnel db
      MapsCounted x.2.1.mapperCount db₀ x.2.2 := by
  induction attr_list with
  | nil => exact fun _ _ h => h
  | cons attr attr_list ih =>
    intro attr_idx status tunnel db honce hempty h
    have hcount : ∀ d, (attr :: attr_list).countP (TunnelAttr.isMappers d) =
        attr_list.countP (TunnelAttr.isMappers d) + if attr.isMappers d = true then 1 else 0 :=
      fun d => List.countP_cons
    obtain ⟨hstore, hothers⟩ := @tunnelAttrStore_counted env tunnel_id attr tunnel db₀ db
      (fun d hd => hempty d (by rw [hcount, if_pos hd]; omega)) h
    simp only [tunnelAttrWalk]
    generalize tunnelAttrStore _ _ _ _ _ = stored at hstore hothers
    split
    · exact hstore
    have hcall := hstore.of_maps (call_maps stored.2.2 env (.tunnelObjAttrValidate attr))
    split
    · exact hcall
    refine ih (fun d => ?_) (fun d hd => ?_) hcall
    · have := honce d
      rw [hcount] at this
      omega
    · have hplain : attr.isMappers d = false := by
        have := honce d
        rw [hcount] at this
        cases hm : attr.isMappers d with
        | false => rfl
        | true =>
          rw [if_pos hm] at this
          omega
      rw [hothers d hplain]
      exact hempty d (by rw [hcount]; omega)

/-- **The attributes of a tunnel**: the maps count the lists that it has after them. -/
theorem tunnelAttrSet_counted {attr_list}
    (honce : ∀ is_encap, attr_list.countP (TunnelAttr.isMappers is_encap) ≤ 1) {db₀ db}
    (h : MapsCounted (fun _ => 0) db₀ db) :
    let x := tunnelAttrSet env tunnel_id attr_list .zero db
    MapsCounted x.2.1.mapperCount db₀ x.2.2 := by
  have hwalk := @tunnelAttrWalk_counted env tunnel_id db₀ attr_list 0 .failure .zero db honce
    (fun d _ => by cases d <;> rfl) (h.congr fun _ => rfl)
  simp only [tunnelAttrSet]
  split
  · exact (tunnelMappersClean_counted env _ hwalk).congr fun _ => rfl
  · exact hwalk

end Attributes

/-! ## What a call leaves -/

structure EntriesKept (db db' : TunnelDb) : Prop where
  entries : db'.entries = db.entries
  npu : db'.npu_entries = db.npu_entries
  bridges : db'.bridges = db.bridges

section Calls

variable {env : TunnelEnv} {db db₁ db₂ : TunnelDb}

theorem EntriesKept.refl (db) : EntriesKept db db := ⟨rfl, rfl, rfl⟩

theorem EntriesKept.trans (h : EntriesKept db db₁) (k : EntriesKept db₁ db₂) : EntriesKept db db₂ :=
  ⟨k.entries.trans h.entries, k.npu.trans h.npu, k.bridges.trans h.bridges⟩

theorem OnlyMaps.entriesKept (h : OnlyMaps db db₁) : EntriesKept db db₁ := ⟨h.entries, h.npu_entries, h.bridges⟩

/-- **A create** adds a tunnel that the maps on its lists count, or the counts stay. -/
theorem tunnelCreate_links (max_id : Nat) {attr_list}
    (honce : ∀ is_encap, attr_list.countP (TunnelAttr.isMappers is_encap) ≤ 1) :
    let x := tunnelCreate max_id env attr_list db
    EntriesKept db x.2.2 ∧
      ((x.1 ≠ .success ∧ x.2.2.tunnels = db.tunnels ∧ MapsCounted (fun _ => 0) db x.2.2) ∨
      (x.1 = .success ∧ ∃ tunnel, db.tunnelObjGet x.2.1 = none ∧
        x.2.2.tunnels = Tree.insert db.tunnels x.2.1 tunnel ∧ MapsCounted tunnel.mapperCount db x.2.2)) := by
  intro x
  have hx : TunnelCreates env attr_list db x := tunnelCreate_does env
  clear_value x
  cases hx with
  | early bad start maps =>
    exact ⟨start.entriesKept, .inl ⟨bad, start.tunnels, (MapsCounted.refl db).of_maps maps⟩⟩
  | @refused rc i db₁ db₂ npu bad _ _ startMaps only maps _ =>
    have hset := tunnelAttrSet_counted env (tunnelId i) honce ((MapsCounted.refl db).of_maps startMaps)
    have hclean := only.trans (tunnelMappersClean_only env (tunnelId i)
      (tunnelAttrSet env (tunnelId i) attr_list .zero db₁).2.1 _)
    exact ⟨⟨hclean.entries, hclean.npu_entries, hclean.bridges⟩, .inl ⟨bad, hclean.tunnels,
      tunnelMappersClean_counted env _ (hset.of_maps maps)⟩⟩
  | @created i db₁ db₂ _ _ startMaps fresh _ only maps =>
    have hset := tunnelAttrSet_counted env (tunnelId i) honce ((MapsCounted.refl db).of_maps startMaps)
    refine ⟨⟨only.entries, only.npu_entries, only.bridges⟩, .inr ⟨rfl, _, fresh, ?_, hset.of_maps maps⟩⟩
    exact congrArg (fun tunnels => Tree.insert tunnels (tunnelId i) _) only.tunnels

/-- **A remove** drops a tunnel that the maps on its lists count, or the counts stay. -/
theorem tunnelRemove_links (o)
    (hcounted : ∀ tunnel, db.tunnelObjGet o = some tunnel → ∀ m, tunnel.mapperCount m ≠ 0 →
      ∃ map, db.maps m = some map ∧ tunnel.mapperCount m ≤ map.ref_count) :
    let x := tunnelRemove env o db
    EntriesKept db x.2 ∧ ((x.1 ≠ .success ∧ x.2 = db) ∨ ∃ tunnel, db.tunnelObjGet o = some tunnel ∧
      ((x.1 ≠ .success ∧ x.2.maps = db.maps ∧
          (x.2.tunnels = Tree.insert (Tree.erase db.tunnels o) o tunnel ∨
            (x.2.tunnels = Tree.erase db.tunnels o ∧ ∃ log, env.outside log (.tunnelObjRemove o) ≠ .success ∧
              env.outside (env.outside.log (.tunnelObjRemove o) log) (.tunnelInsert o) ≠ .success))) ∨
        (x.1 = .success ∧ x.2.tunnels = Tree.erase db.tunnels o ∧ ∀ m, (x.2.maps m).map TunnelMap.core =
          (db.maps m).map fun k => (k.subRefs (tunnel.mapperCount m)).core))) := by
  intro x
  have hx : TunnelRemoves env o db x := tunnelRemove_does env
  clear_value x
  cases hx with
  | refused bad => exact ⟨.refl db, .inl ⟨bad, rfl⟩⟩
  | @restored rc tunnel db₁ free bad _ only maps =>
    refine ⟨⟨only.entries, only.npu_entries, only.bridges⟩, .inr ⟨tunnel, free.get, .inl ⟨bad, maps, .inl ?_⟩⟩⟩
    exact congrArg (fun tunnels => Tree.insert tunnels o tunnel) only.tunnels
  | @lost rc tunnel db₁ free bad kept only maps =>
    exact ⟨⟨only.entries, only.npu_entries, only.bridges⟩,
      .inr ⟨tunnel, free.get, .inl ⟨bad, maps, .inr ⟨only.tunnels, kept⟩⟩⟩⟩
  | @gone tunnel db₁ free only maps =>
    -- the maps count so much more than in a state without the tunnel
    have hbase : MapsCounted tunnel.mapperCount
        { db with maps := fun m => (db.maps m).map fun k => k.subRefs (tunnel.mapperCount m) }
        (db₁.giveBackTunnel o tunnel) := by
      refine ⟨fun m => ?_, fun m hm => ?_⟩
      · show (db₁.maps m).map TunnelMap.core = ((db.maps m).map _).map _
        rw [maps, Option.map_map]
        by_cases hzero : tunnel.mapperCount m = 0
        · rw [hzero]
          rfl
        obtain ⟨map, hmap, hle⟩ := hcounted tunnel free.get m hzero
        rw [hmap]
        show some ({ map with dep_tunnels := [] } : TunnelMap) = some
          { map with ref_count := map.ref_count - tunnel.mapperCount m + tunnel.mapperCount m, dep_tunnels := [] }
        rw [Nat.sub_add_cancel hle]
      · obtain ⟨map, hmap, -⟩ := hcounted tunnel free.get m hm
        show ((db.maps m).map _).isSome = true
        rw [hmap]
        rfl
    have hclean := tunnelMappersClean_counted env o hbase
    have honly := tunnelMappersClean_only env o tunnel (db₁.giveBackTunnel o tunnel)
    refine ⟨⟨honly.entries.trans only.entries, honly.npu_entries.trans only.npu_entries,
      honly.bridges.trans only.bridges⟩, .inr ⟨tunnel, free.get, .inr ⟨rfl, honly.tunnels.trans only.tunnels,
        fun m => ?_⟩⟩⟩
    exact (hclean.maps m).trans (Option.map_map ..)

end Calls

end OpxSai
