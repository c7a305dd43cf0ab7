import OpxSai.Tunnel.MapCounts

/-!
# The tunnels that depend on a map

A map has the tunnels on whose lists it is. A tunnel that is created gets on the list of each of its maps,
and no call takes another tunnel off.
-/

namespace OpxSai

open TunnelDb
variable {o : Oid} {db : TunnelDb} {objlist : List Oid} {is_encap : Bool} {env : TunnelEnv}
variable {tunnel : TunnelObj}

def DependsOn (t m : Oid) (db : TunnelDb) : Prop := ∃ map, db.maps m = some map ∧ t ∈ map.dep_tunnels

def MappersDepend (t : Oid) (tunnel : TunnelObj) (db : TunnelDb) : Prop :=
  ∀ is_encap, ∀ m ∈ tunnel.mappers is_encap, DependsOn t m db

def DepsKept (but : Option Oid) (db db' : TunnelDb) : Prop :=
  ∀ t m, but ≠ some t → DependsOn t m db → DependsOn t m db'

section Kept

variable {but : Option Oid} {db₁ db₂ : TunnelDb}

theorem DepsKept.refl (db) : DepsKept but db db := fun _ _ _ h => h

theorem DepsKept.trans (h : DepsKept but db db₁) (k : DepsKept but db₁ db₂) : DepsKept but db db₂ :=
  fun t m ht hd => k t m ht (h t m ht hd)

theorem DepsKept.of_none (h : DepsKept none db db₁) : DepsKept (some o) db db₁ :=
  fun t m _ hd => h t m nofun hd

theorem DepsKept.of_maps (hmaps : db₁.maps = db.maps) : DepsKept but db db₁ := by
  rintro t m - ⟨map, hmap, hmem⟩
  exact ⟨map, hmaps ▸ hmap, hmem⟩

theorem DepsKept.modMap (map_id) {f : TunnelMap → TunnelMap}
    (hf : ∀ k t, but ≠ some t → t ∈ k.dep_tunnels → t ∈ (f k).dep_tunnels) (db) :
    DepsKept but db (db.modMap map_id f) := by
  rintro t m ht ⟨map, hmap, hmem⟩
  by_cases heq : m = map_id
  · exact ⟨f map, (if_pos heq).trans (congrArg (Option.map f) hmap), hf map t ht hmem⟩
  · exact ⟨map, (if_neg heq).trans hmap, hmem⟩

end Kept

section Lists

variable (env : TunnelEnv) (tunnel_id : Oid)

theorem tunnelMapperLeave_deps {map_id} :
    DepsKept (some tunnel_id) db (tunnelMapperLeave env tunnel_id map_id db) := by
  have hcall : DepsKept (some tunnel_id) db (db.call env (.mapDepTunnelRemove map_id tunnel_id)).2 :=
    .of_maps (call_maps ..)
  simp only [tunnelMapperLeave]
  split
  · exact .refl db
  split
  · refine (hcall.trans (.modMap _ (f := fun k => { k with dep_tunnels := k.dep_tunnels.erase tunnel_id })
      (fun k t ht hmem => ?_) _)).trans
        (.modMap _ (f := fun k => { k with ref_count := k.ref_count - 1 }) (fun _ _ _ h => h) _)
    exact (List.mem_erase_of_ne fun heq => ht (congrArg some heq.symm)).mpr hmem
  · exact hcall.trans (.modMap _ (f := fun k => { k with ref_count := k.ref_count - 1 }) (fun _ _ _ h => h) _)

theorem tunnelMapperClean_deps :
    ∀ db, DepsKept (some tunnel_id) db (tunnelMapperClean env tunnel_id objlist db) := by
  induction objlist with
  | nil => exact fun db => .refl db
  | cons map_id objlist ih => exact fun db => (tunnelMapperLeave_deps env _).trans (ih _)

theorem tunnelMappersClean_deps {tunnel} :
    DepsKept (some tunnel_id) db (tunnelMappersClean env tunnel_id tunnel db).2 :=
  DepsKept.trans (tunnelMapperClean_deps env _ db)
    (tunnelMapperClean_deps env _ _)

theorem tunnelMapperTake_deps : ∀ map_found new_objlist db,
    let x := tunnelMapperTake env tunnel_id is_encap objlist map_found new_objlist db
    DepsKept none db x.2.2 ∧ ∀ m ∈ x.2.1, m ∈ new_objlist ∨ DependsOn tunnel_id m x.2.2 := by
  induction objlist with
  | nil => exact fun _ _ db => ⟨.refl db, fun _ hm => .inl hm⟩
  | cons map_id objlist ih =>
    intro map_found new_objlist db
    simp only [tunnelMapperTake]
    split
    · exact ⟨.refl db, fun _ hm => .inl hm⟩
    rename_i k hk
    split
    · exact ⟨.refl db, fun _ hm => .inl hm⟩
    split
    · exact ⟨.refl db, fun _ hm => .inl hm⟩
    have hmaps := call_maps db env (.mapDepTunnelAdd map_id tunnel_id)
    have hcall : DepsKept none db (db.call env (.mapDepTunnelAdd map_id tunnel_id)).2 := .of_maps hmaps
    split
    · exact ⟨hcall, fun _ hm => .inl hm⟩
    have hadd := hcall.trans (.modMap map_id (f := fun k =>
      { k with dep_tunnels := k.dep_tunnels ++ [tunnel_id], ref_count := k.ref_count + 1 })
      (fun k t _ hmem => List.mem_append_left _ hmem) _)
    obtain ⟨hkept, htaken⟩ := ih (map_found || decide (k.type = mapperType is_encap)) (new_objlist ++ [map_id])
      ((db.call env (.mapDepTunnelAdd map_id tunnel_id)).2.modMap map_id fun k =>
        { k with dep_tunnels := k.dep_tunnels ++ [tunnel_id], ref_count := k.ref_count + 1 })
    refine ⟨hadd.trans hkept, fun m hm => ?_⟩
    rcases htaken m hm with hmem | hdep
    · rcases List.mem_append.mp hmem with hmem | hmem
      · exact .inl hmem
      obtain rfl := List.mem_singleton.mp hmem
      refine .inr (hkept tunnel_id m (by simp) ⟨{ k with
        dep_tunnels := k.dep_tunnels ++ [tunnel_id]
        ref_count := k.ref_count + 1 }, ?_, List.mem_append_right _ (List.mem_singleton.mpr rfl)⟩)
      refine (if_pos rfl).trans ?_
      rw [hmaps, hk]
      rfl
    · exact .inr hdep

theorem mem_mappers_setMappers {d : Bool} {m}
    (hm : m ∈ (tunnel.setMappers is_encap objlist).mappers d) : m ∈ objlist ∨ m ∈ tunnel.mappers d := by
  rw [mappers_setMappers] at hm
  split at hm
  · exact .inl hm
  · exact .inr hm

/-- **A list is set**: the tunnel depends on its maps, or the set fails. -/
theorem tunnelMapperSet_deps {objlist} (h : MappersDepend tunnel_id tunnel db) :
    let x := tunnelMapperSet env tunnel_id is_encap objlist tunnel db
    DepsKept (some tunnel_id) db x.2.2 ∧ (x.1 = .success → MappersDepend tunnel_id x.2.1 x.2.2) := by
  simp only [tunnelMapperSet]
  split
  · exact ⟨.refl db, by simp⟩
  rename_i objlist
  split
  · exact ⟨.refl db, by simp⟩
  obtain ⟨hkept, htaken⟩ := tunnelMapperTake_deps env _ _ [] db
  generalize tunnelMapperTake _ _ _ _ _ _ _ = taken at hkept htaken
  split
  next hbad =>
    exact ⟨hkept.of_none.trans (tunnelMapperClean_deps env _ _), fun hok => absurd hok hbad⟩
  refine ⟨hkept.of_none, fun _ d m hm => ?_⟩
  rcases mem_mappers_setMappers hm with hm | hm
  · exact (htaken m hm).resolve_left List.not_mem_nil
  · exact hkept tunnel_id m (by simp) (h d m hm)

theorem tunnelAttrStore_deps {attr} (h : MappersDepend tunnel_id tunnel db) :
    let x := tunnelAttrStore env tunnel_id attr tunnel db
    DepsKept (some tunnel_id) db x.2.2 ∧ (x.1 = .success → MappersDepend tunnel_id x.2.1 x.2.2) := by
  intro x
  by_cases hplain : ∀ is_encap, attr.isMappers is_encap = false
  · obtain ⟨hmappers, hdb⟩ := tunnelAttrStore_plain env _ hplain
    have hsame : x.2.2 = db := hdb
    rw [hsame]
    exact ⟨.refl db, fun _ d m hm => h d m (hmappers d ▸ hm)⟩
  cases attr with
  | encapMappers objlist => exact tunnelMapperSet_deps env _ h
  | decapMappers objlist => exact tunnelMapperSet_deps env _ h
  | _ => exact absurd (fun is_encap => rfl) hplain

theorem tunnelAttrWalk_deps (attr_list) : ∀ {attr_idx status tunnel db},
    MappersDepend tunnel_id tunnel db →
      let x := tunnelAttrWalk env tunnel_id attr_idx attr_list status tunnel db
      DepsKept (some tunnel_id) db x.2.2 ∧ (x.1 = .success → MappersDepend tunnel_id x.2.1 x.2.2) := by
  induction attr_list with
  | nil => exact fun h => ⟨.refl _, fun _ => h⟩
  | cons attr attr_list ih =>
    intro attr_idx status tunnel db h
    obtain ⟨hkept, hset⟩ := tunnelAttrStore_deps env _ h
    simp only [tunnelAttrWalk]
    generalize tunnelAttrStore _ _ _ _ _ = stored at hkept hset
    have hindexed : ∀ {rc : Status}, rc ≠ .success → getIndexedRetVal rc attr_idx ≠ .success := by
      intro rc hrc
      cases rc <;> first | exact hrc | (simp [getIndexedRetVal])
    split
    next hbad => exact ⟨hkept, fun hok => absurd hok (hindexed hbad)⟩
    rename_i hok
    have hmaps := call_maps stored.2.2 env (.tunnelObjAttrValidate attr)
    have hcall : ∀ {but}, DepsKept but stored.2.2 (stored.2.2.call env (.tunnelObjAttrValidate attr)).2 :=
      .of_maps hmaps
    split
    next hbad => exact ⟨hkept.trans hcall, fun hok => absurd hok (hindexed hbad)⟩
    obtain ⟨hrest, hwalked⟩ := @ih (attr_idx + 1) .success stored.2.1
      (stored.2.2.call env (.tunnelObjAttrValidate attr)).2 fun d m hm =>
        @hcall none tunnel_id m (by simp) (hset (not_not.mp hok) d m hm)
    exact ⟨(hkept.trans hcall).trans hrest, hwalked⟩

/-- **The attributes** of a tunnel: it depends on its maps, or they are refused. -/
theorem tunnelAttrSet_deps (attr_list) (db) :
    let x := tunnelAttrSet env tunnel_id attr_list .zero db
    DepsKept (some tunnel_id) db x.2.2 ∧ (x.1 = .success → MappersDepend tunnel_id x.2.1 x.2.2) := by
  have hzero : MappersDepend tunnel_id .zero db := fun d m hm => by cases d <;> cases hm
  obtain ⟨hkept, hset⟩ := @tunnelAttrWalk_deps env tunnel_id attr_list 0 .failure _ db hzero
  simp only [tunnelAttrSet]
  split
  next hbad => exact ⟨hkept.trans (tunnelMappersClean_deps env _), fun hok => absurd hok hbad⟩
  rename_i hok
  refine ⟨hkept, fun _ => hset ?_⟩
  rw [not_not] at hok
  unfold tunnelMappersCheck at hok
  split at hok
  · cases hok
  · exact hok

end Lists

/-! ## The calls -/

def IndexesFree (db : TunnelDb) : Prop :=
  ∀ i, db.tunnel_id_bitmap i = true → db.tunnelObjGet (tunnelId i) = none

section Calls

theorem IndexesFree.of_only (hfree : IndexesFree db) {npu : Oid → Bool} {db'}
    (h : OnlyMaps { db with npu_tunnels := npu } db') : IndexesFree db' := by
  intro i hi
  rw [tunnelObjGet, h.tunnels]
  exact hfree i (h.tunnel_id_bitmap ▸ hi)

theorem tunnelCreate_deps {max_id : Nat} {attr_list} (hfree : IndexesFree db) :
    let x := tunnelCreate max_id env attr_list db
    (∀ t m, (db.tunnelObjGet t).isSome = true → DependsOn t m db → DependsOn t m x.2.2) ∧
      (x.1 = .success → ∀ tunnel, x.2.2.tunnelObjGet x.2.1 = some tunnel → MappersDepend x.2.1 tunnel x.2.2) ∧
      IndexesFree x.2.2 := by
  intro x
  have hx : TunnelCreates env attr_list db x := tunnelCreate_does env
  clear_value x
  -- a live tunnel is not the one that is made
  have hlive : ∀ {i t m} {db' : TunnelDb}, db.tunnel_id_bitmap i = true → DepsKept (some (tunnelId i)) db db' →
      (db.tunnelObjGet t).isSome = true → DependsOn t m db → DependsOn t m db' := by
    intro i t m db' hi hkept ht hdep
    refine hkept t m (fun heq => ?_) hdep
    rw [← Option.some.inj heq, hfree i hi] at ht
    cases ht
  cases hx with
  | early bad start maps =>
    exact ⟨fun t m _ hdep => @DepsKept.of_maps _ none _ maps t m nofun hdep, fun hok => absurd hok bad,
      hfree.of_only start⟩
  | @refused rc i db₁ db₂ npu bad index _ startMaps only maps _ =>
    have hset := (tunnelAttrSet_deps env (tunnelId i) attr_list db₁).1
    have hclean := tunnelMappersClean_only env (tunnelId i)
      (tunnelAttrSet env (tunnelId i) attr_list .zero db₁).2.1 db₂
    refine ⟨fun t m ht hdep => hlive index ?_ ht hdep, fun hok => absurd hok bad,
      hfree.of_only (only.trans hclean)⟩
    exact (((DepsKept.of_maps startMaps).trans hset).trans (.of_maps maps)).trans
      (tunnelMappersClean_deps env _)
  | @created i db₁ db₂ index _ startMaps fresh set only maps =>
    obtain ⟨hkept, hset⟩ := tunnelAttrSet_deps env _ _ _
    generalize tunnelAttrSet _ _ _ _ _ = stored at set maps hkept hset ⊢
    have hget : ∀ t, Tree.find (Tree.insert db₂.tunnels (tunnelId i) stored.2.1) t =
        if t = tunnelId i then some stored.2.1 else db.tunnelObjGet t := by
      intro t
      rw [only.tunnels]
      exact Tree.find_insert fresh _ t
    refine ⟨fun t m ht hdep => hlive index ?_ ht hdep, fun _ tunnel htunnel d m hm => ?_, fun j hj => ?_⟩
    · exact ((DepsKept.of_maps startMaps).trans hkept).trans (.of_maps maps)
    · have htunnel := (hget (tunnelId i)).symm.trans htunnel
      rw [if_pos rfl] at htunnel
      cases htunnel
      exact @DepsKept.of_maps _ none _ maps (tunnelId i) m nofun (hset set d m hm)
    · change (if j = i then false else db₂.tunnel_id_bitmap j) = true at hj
      refine (hget (tunnelId j)).trans ?_
      split at hj
      · cases hj
      rename_i hne
      rw [if_neg fun heq => hne (congrArg Oid.id heq)]
      exact hfree j (only.tunnel_id_bitmap ▸ hj)

theorem tunnelRemove_deps (hfree : IndexesFree db)
    (hnpu : ∀ log, env.outside log (.tunnelObjRemove o) = .success) :
    let x := tunnelRemove env o db
    DepsKept (some o) db x.2 ∧ IndexesFree x.2 ∧ (x.2 = db ∨ (x.2.tunnels = Tree.erase db.tunnels o ∧ x.2.entries = db.entries)) := by
  intro x
  have hx : TunnelRemoves env o db x := tunnelRemove_does env
  clear_value x
  cases hx with
  | refused _ => exact ⟨.refl db, hfree, .inl rfl⟩
  | restored _ _ kept => exact kept.elim fun log hkept => absurd (hnpu log) hkept
  | lost _ _ kept => exact kept.elim fun log hkept => absurd (hnpu log) hkept.1
  | @gone tunnel db₁ free only maps =>
    have hclean := tunnelMappersClean_only env o tunnel (db₁.giveBackTunnel o tunnel)
    have hsame : DepsKept (some o) db (db₁.giveBackTunnel o tunnel) := .of_maps maps
    refine ⟨hsame.trans (tunnelMappersClean_deps env o), fun i hi => ?_,
      .inr ⟨hclean.tunnels.trans only.tunnels, hclean.entries.trans only.entries⟩⟩
    dsimp only at hi ⊢
    rw [hclean.tunnel_id_bitmap] at hi
    change (if i = o.id then true else db₁.tunnel_id_bitmap i) = true at hi
    rw [tunnelObjGet, hclean.tunnels]
    show Tree.find db₁.tunnels (tunnelId i) = none
    rw [only.tunnels]
    refine (Tree.find_erase _ o _).trans ?_
    split
    · rfl
    rename_i hne
    split at hi
    next heq =>
      refine absurd ?_ hne
      rw [heq, tunnelId, uoidCreate, ← free.type]
    · exact hfree i (only.tunnel_id_bitmap ▸ hi)

end Calls

end OpxSai
