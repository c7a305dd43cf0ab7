import OpxSai.Routing.RefCount
import OpxSai.Tunnel.MapLinks

/-!
# Runs of calls on tunnel maps

Each call finds the links in order and leaves them in order. What is here follows the calls of
`TunnelMap` and `Tunnel` to the one update that each of them makes.

* `mapLinks_of_run` — every run.
-/

namespace OpxSai

open TunnelDb

variable {env : TunnelMapEnv} {e : TunnelMapEntry} {attr_list : List TunnelMapEntryAttr}
variable {attr : TunnelMapEntryAttr} {tunnel_map_id o entry_id : Oid}
variable {status : Status} {x : Status × Oid × TunnelDb}

structure CallKeeps (others : Oid → Option Nat) (op : MapLinkOp) (db : TunnelDb) (x : Status × Oid × TunnelDb) :
    Prop where
  inv : MapLinksInv others x.2.2
  npu : NpuEntriesExact db → NpuEntriesExact x.2.2
  made : x.1 = .success → op.Made x.2.1 x.2.2
  failed : x.1 ≠ .success → LinksSame db x.2.2

section Calls

variable {others : Oid → Option Nat} {db db₁ : TunnelDb}

variable (max_id : Nat) (op : MapLinkOp)

theorem CallKeeps.refused (h : MapLinksInv others db) (op) {id}
    (hstatus : status ≠ .success) (hsame : LinkTreesSame db db₁) :
    CallKeeps others op db (status, id, db₁) :=
  ⟨h.same hsame, fun hnpu => hnpu.same hsame, fun hok => absurd hok hstatus, fun _ => hsame.linksSame⟩

theorem nodeAlloc_same (env) (db) : LinkTreesSame db (db.call env .nodeAlloc).2 :=
  .call db env fun _ => .refl _

/-! ## Maps -/

theorem tunnelMapFillAttr_fills (attr_list) : ∀ idx status m,
    (∀ attr ∈ attr_list, ∃ s32, attr = .type s32 ∧ tunnelMapValidateType s32 = .success) →
      (attr_list = [] → status = .success) →
        ∃ type, tunnelMapFillAttr idx attr_list status m = (.success, { m with type := type }) := by
  induction attr_list with
  | nil =>
    intro idx status m _ hstatus
    exact ⟨m.type, by rw [hstatus rfl]; rfl⟩
  | cons attr attr_list ih =>
    intro idx status m hattrs _
    obtain ⟨s32, rfl, hs32⟩ := hattrs attr List.mem_cons_self
    rw [tunnelMapFillAttr, if_ok hs32]
    obtain ⟨type, htype⟩ := ih (idx + 1) .success { m with type := s32 }
      (fun attr hattr => hattrs attr (List.mem_cons_of_mem _ hattr)) fun _ => rfl
    exact ⟨type, htype⟩

theorem tunnelMapIdGenerate_unused {map_id}
    (hid : tunnelMapIdGenerate env db = some map_id) : db.maps map_id = none := by
  obtain ⟨id, hnext, rfl⟩ := Option.map_eq_some_iff.mp hid
  exact Option.isSome_eq_false_iff.mp (env.map_id_gen.unused _ id hnext) |> Option.isNone_iff_eq_none.mp

theorem tunnelMapCreate_keeps (h : MapLinksInv others db) {attr_list}
    (hfits : MapOpFits (.mapCreate env attr_list tunnel_map_id) db) :
    CallKeeps others (.mapCreate env attr_list tunnel_map_id) db
      (tunnelMapCreate env attr_list tunnel_map_id db) := by
  simp only [tunnelMapCreate]
  split
  next hvalid => exact .refused h _ hvalid (.refl db)
  rename_i hvalid
  have halloc := nodeAlloc_same env.toTunnelEnv db
  have hanswer : (db.call env.toTunnelEnv .nodeAlloc).1 = env.outside db.outside_log .nodeAlloc := rfl
  generalize db.call _ _ = alloc at halloc hanswer
  split
  · exact .refused h _ (by simp) halloc
  rename_i hok
  obtain ⟨⟨hne, hattrs⟩, hid, hinsert⟩ := hfits (not_not.mp hvalid) (hanswer.symm.trans (not_not.mp hok))
  obtain ⟨type, hfill⟩ := tunnelMapFillAttr_fills attr_list 0 .failure .zero hattrs fun hnil => absurd hnil hne
  have hgenerate : tunnelMapIdGenerate env alloc.2 = tunnelMapIdGenerate env db := by
    unfold tunnelMapIdGenerate
    rw [halloc.maps]
  obtain ⟨map_id, hmap_id⟩ := Option.isSome_iff_exists.mp hid
  have hunused := tunnelMapIdGenerate_unused hmap_id
  have hins := LinkTreesSame.call alloc.2 env.toTunnelEnv (c := .mapInsert map_id) fun _ => .refl _
  have hinserted : (alloc.2.call env.toTunnelEnv (.mapInsert map_id)).1 = .success := hinsert _ _
  simp only [tunnelMapFill, hfill, hgenerate, hmap_id]
  generalize alloc.2.call _ _ = inserted at hins hinserted
  have hsame := halloc.trans hins
  have hfree : (inserted.2.maps map_id).isSome = false := by
    rw [hsame.maps, hunused]
    rfl
  rw [if_neg (by simp), if_neg (by rw [hinserted, hfree]; simp)]
  refine ⟨(h.same hsame).addMap (hsame.maps ▸ hunused) type, fun hnpu o => hnpu.same hsame o, fun _ => ?_,
    fun hbad => absurd rfl hbad⟩
  show (if map_id = map_id then _ else _ : Option TunnelMap).isSome = true
  rw [if_pos rfl]
  rfl

theorem tunnelMapRemove_keeps (h : MapLinksInv others db) :
    CallKeeps others (.mapRemove tunnel_map_id) db
      ((tunnelMapRemove tunnel_map_id db).1, tunnel_map_id, (tunnelMapRemove tunnel_map_id db).2) := by
  unfold tunnelMapRemove
  cases hmap : db.maps tunnel_map_id with
  | none => exact .refused h _ (by simp) (.refl db)
  | some m =>
    dsimp only
    split
    · exact .refused h _ (by simp) (.refl db)
    next hzero =>
      exact ⟨h.dropMap hmap (by omega), fun hnpu => hnpu, fun _ => trivial, fun hbad => absurd rfl hbad⟩

/-! ## Entries -/

theorem MapLinksInv.mem_mapEntries (h : MapLinksInv others db) (ho : db.entryGet o = some e) :
    e ∈ db.mapEntries e.tunnel_map_id := by
  obtain ⟨m, hm, -⟩ := h.typed o e ho
  have hlisted := h.listed _ m hm o
  rw [ho, Option.map_some, if_pos rfl] at hlisted
  rw [mapEntries, hm]
  exact List.mem_filterMap.mpr ⟨o, List.count_pos_iff.mp (hlisted ▸ Nat.one_pos), ho⟩

/-- **A new key**: the map of an entry that is validated has no entry with its key. -/
theorem mapEntryValidate_key (h : MapLinksInv others db)
    (hout : MapOutsideFits (.entryCreate env attr_list)) {k}
    (hk : db.maps e.tunnel_map_id = some k) (htype : k.type = e.type) (hvalid : mapEntryValidate env e db = .success) :
    ∀ o' e', db.entryGet o' = some e' → e'.tunnel_map_id = e.tunnel_map_id → e'.mapKey ≠ e.mapKey := by
  obtain ⟨hbridge, hvnid⟩ := hout
  intro o' e' ho' hmap hkey
  have hmem := h.mem_mapEntries ho'
  have hsame : e'.type = e.type := by
    obtain ⟨k', hk', htype'⟩ := h.typed o' e' ho'
    rw [hmap, hk] at hk'
    cases hk'
    rw [← htype', htype]
  rw [hmap] at hmem
  simp only [mapEntryValidate] at hvalid
  simp only [TunnelMapEntry.mapKey, hsame] at hkey
  split at hvalid
  next hencap =>
    rw [if_pos hencap, if_pos hencap] at hkey
    split at hvalid
    · cases hvalid
    next hnone => exact hnone ((hbridge _ _).mpr ⟨e', hmem, Sum.inl.inj hkey⟩)
  rename_i hdecap
  rw [if_neg hdecap, if_neg hdecap] at hkey
  split at hvalid
  · cases hvalid
  next hnone => exact hnone ((hvnid _ _).mpr ⟨e', hmem, Sum.inr.inj hkey⟩)

theorem mapEntryAttrStore_error {idx : Nat} (herror : mapEntryAttrStore env db idx attr e = .error status) :
    status ≠ .success := by
  cases attr with
  | tunnelMapType _ | tunnelMap _ | bridgeIdKey _ | bridgeIdValue _ | vniIdKey _ | vniIdValue _ =>
    simp only [mapEntryAttrStore] at herror
    split at herror
    · cases herror
      simp
    · cases herror
  | unknown _ =>
    cases herror
    simp

theorem mapEntryAttrWalk_error :
    ∀ {idx e}, mapEntryAttrWalk env db idx attr_list e = .error status → status ≠ .success := by
  induction attr_list with
  | nil => exact fun herror => by cases herror
  | cons attr attr_list ih =>
    intro idx e herror
    rw [mapEntryAttrWalk] at herror
    split at herror
    next hstore =>
      cases herror
      exact mapEntryAttrStore_error hstore
    · exact ih herror

theorem mapEntryFillAttr_map
    {filled} (hfilled : mapEntryFillAttr env attr_list db = some filled)
    (hok : filled.1 = .success) : ∃ k, db.maps filled.2.tunnel_map_id = some k ∧ k.type = filled.2.type ∧
      mapEntryValidate env filled.2 db = .success := by
  unfold mapEntryFillAttr at hfilled
  split at hfilled
  next status hwalk =>
    cases hfilled
    exact absurd hok (mapEntryAttrWalk_error hwalk)
  split at hfilled
  · obtain ⟨k, hk, rfl⟩ := Option.map_eq_some_iff.mp hfilled
    dsimp only at hok ⊢
    split at hok
    · cases hok
    next htype => exact ⟨k, hk, not_not.mp htype, hok⟩
  · cases hfilled

theorem mapEntryIdGenerate_unused (hid : mapEntryIdGenerate env db = some entry_id) : db.entryGet
    entry_id = none := by
  obtain ⟨id, hnext, rfl⟩ := Option.map_eq_some_iff.mp hid
  exact Option.isSome_eq_false_iff.mp (env.entry_id_gen.unused _ id hnext) |> Option.isNone_iff_eq_none.mp

theorem LinkTreesSame.addEntry (h : LinkTreesSame db db₁) (o) (e) :
    LinkTreesSame (TunnelDb.addEntry o e db) (TunnelDb.addEntry o e db₁) := by
  obtain ⟨hmaps, htunnels, hentries, hnpu, hbridges, hbitmap⟩ := h
  unfold TunnelDb.addEntry TunnelDb.modBridge TunnelDb.modMap
  rw [hmaps, hentries, hbridges]
  exact ⟨rfl, htunnels, rfl, hnpu, rfl, hbitmap⟩

theorem LinkTreesSame.dropEntry (h : LinkTreesSame db db₁) {e} :
    LinkTreesSame (TunnelDb.dropEntry o e db) (TunnelDb.dropEntry o e db₁) := by
  obtain ⟨hmaps, htunnels, hentries, hnpu, hbridges, hbitmap⟩ := h
  unfold TunnelDb.dropEntry TunnelDb.modBridge TunnelDb.modMap
  rw [hmaps, hentries, hbridges]
  exact ⟨rfl, htunnels, rfl, hnpu, rfl, hbitmap⟩

theorem mapEntryRegister_cases (hunused : db.entryGet entry_id = none)
    (hx : mapEntryRegister env entry_id e db = some x) :
    (x.1 ≠ .success ∧ (LinkTreesSame db x.2.2 ∨
      LinkTreesSame { db with npu_entries := mark db.npu_entries entry_id true } x.2.2 ∧
        ∃ log, env.outside log (.mapEntryCreate entry_id) = .success ∧
          env.outside (env.outside.log (.mapEntryCreate entry_id) log) (.mapEntryInsert entry_id) ≠ .success)) ∨
    (x.1 = .success ∧ x.2.1 = entry_id ∧ (db.bridges e.bridge).isSome = true ∧
      LinkTreesSame (TunnelDb.addEntry entry_id e { db with npu_entries := mark db.npu_entries entry_id true })
        x.2.2) := by
  simp only [mapEntryRegister] at hx
  split at hx
  next hrefused =>
    cases hx
    exact .inl ⟨hrefused, .inl (.refused hrefused)⟩
  rename_i hmade
  have hmade := not_not.mp hmade
  have hnpu := LinkTreesSame.taken hmade
  have hanswer : env.outside db.outside_log (.mapEntryCreate entry_id) = .success := hmade
  have hlog : (db.call env.toTunnelEnv (.mapEntryCreate entry_id)).2.outside_log =
      env.outside.log (.mapEntryCreate entry_id) db.outside_log := by
    simp only [TunnelDb.call]
    split <;> rfl
  generalize db.call _ _ = made at hx hnpu hlog
  have hins := LinkTreesSame.call made.2 env.toTunnelEnv (c := .mapEntryInsert entry_id) fun _ => .refl _
  have hinserted : (made.2.call env.toTunnelEnv (.mapEntryInsert entry_id)).1 =
      env.outside (env.outside.log (.mapEntryCreate entry_id) db.outside_log) (.mapEntryInsert entry_id) := by
    rw [← hlog]
    rfl
  generalize made.2.call _ _ = inserted at hx hins hinserted
  have hboth := hnpu.trans hins
  have hsame : LinkTreesSame { db with npu_entries := mark db.npu_entries entry_id true } inserted.2 :=
    ⟨hboth.maps, hboth.tunnels, hboth.entries, hboth.npu, hboth.bridges, hboth.bitmap⟩
  have hfree : inserted.2.entryGet entry_id = none := by
    rw [entryGet, hsame.entries]
    exact hunused
  split at hx
  next hbad =>
    cases hx
    rw [hfree] at hbad
    refine .inl ⟨by simp, .inr ⟨hsame, db.outside_log, hanswer, ?_⟩⟩
    rw [← hinserted]
    exact hbad.resolve_right (by simp)
  split at hx
  · cases hx
  rename_i hbridge
  cases hx
  refine .inr ⟨rfl, rfl, ?_, hsame.addEntry entry_id e⟩
  rw [hsame.bridges] at hbridge
  exact Option.ne_none_iff_isSome.mp fun hnone => hbridge (Option.isNone_iff_eq_none.mpr hnone)

/-- **A create** of an entry leaves the links, or adds an entry with a new key to a map of its type. -/
theorem mapEntryCreate_cases (h : MapLinksInv others db) (hout : MapOutsideFits (.entryCreate env attr_list))
    (hx : mapEntryCreate env attr_list db = some x) :
    (x.1 ≠ .success ∧ (LinkTreesSame db x.2.2 ∨ ∃ o,
      LinkTreesSame { db with npu_entries := mark db.npu_entries o true } x.2.2 ∧
        ∃ log, env.outside log (.mapEntryCreate o) = .success ∧
          env.outside (env.outside.log (.mapEntryCreate o) log) (.mapEntryInsert o) ≠ .success)) ∨
    (x.1 = .success ∧ db.entryGet x.2.1 = none ∧ ∃ e k, db.maps e.tunnel_map_id = some k ∧ k.type = e.type ∧
      (∀ o' e', db.entryGet o' = some e' → e'.tunnel_map_id = e.tunnel_map_id → e'.mapKey ≠ e.mapKey) ∧
      (db.bridges e.bridge).isSome = true ∧
      LinkTreesSame (TunnelDb.addEntry x.2.1 e { db with npu_entries := mark db.npu_entries x.2.1 true }) x.2.2) := by
  simp only [mapEntryCreate] at hx
  split at hx
  next hvalid =>
    cases hx
    exact .inl ⟨hvalid, .inl (.refl db)⟩
  have halloc := nodeAlloc_same env.toTunnelEnv db
  generalize db.call _ _ = alloc at hx halloc
  have hinv := h.same halloc
  split at hx
  · cases hx
    exact .inl ⟨by simp, .inl halloc⟩
  split at hx
  · cases hx
  rename_i filled hfilled
  split at hx
  next hbad =>
    cases hx
    exact .inl ⟨hbad, .inl halloc⟩
  rename_i hok
  obtain ⟨k, hk, htype, hvalid⟩ := mapEntryFillAttr_map hfilled (not_not.mp hok)
  split at hx
  · cases hx
    exact .inl ⟨by simp, .inl halloc⟩
  rename_i entry_id hid
  have hunused := mapEntryIdGenerate_unused hid
  have hnew := mapEntryValidate_key hinv hout hk htype hvalid
  have hget : db.entryGet = alloc.2.entryGet := funext fun o => by rw [entryGet, entryGet, halloc.entries]
  have hmark : LinkTreesSame { db with npu_entries := mark db.npu_entries entry_id true }
      { alloc.2 with npu_entries := mark alloc.2.npu_entries entry_id true } :=
    ⟨halloc.maps, halloc.tunnels, halloc.entries, congrArg (mark · entry_id true) halloc.npu, halloc.bridges, halloc.bitmap⟩
  rcases mapEntryRegister_cases hunused hx with
    ⟨hbad, hsame | ⟨hsame, hlog⟩⟩ | ⟨hok, rfl, hbridge, hsame⟩
  · exact .inl ⟨hbad, .inl (halloc.trans hsame)⟩
  · exact .inl ⟨hbad, .inr ⟨entry_id, hmark.trans hsame, hlog⟩⟩
  · refine .inr ⟨hok, ?_, filled.2, k, ?_, htype, ?_, ?_, (hmark.addEntry _ _).trans hsame⟩
    · rw [hget]
      exact hunused
    · rw [← halloc.maps]
      exact hk
    · rw [hget]
      exact hnew
    · rw [← halloc.bridges]
      exact hbridge

theorem mapEntryCreate_keeps (h : MapLinksInv others db) (hout : MapOutsideFits (.entryCreate env attr_list))
    (hfits : MapOpFits (.entryCreate env attr_list) db) (hx : mapEntryCreate env attr_list db = some x) :
    CallKeeps others (.entryCreate env attr_list) db x := by
  rcases mapEntryCreate_cases h hout hx with
    ⟨hbad, hsame | ⟨o, -, log, hmade, hrefused⟩⟩ | ⟨hok, hunused, e, k, hk, htype, hkey, hbridge, hsame⟩
  · exact .refused h _ hbad hsame
  · exact absurd (hfits log o hmade) hrefused
  · refine ⟨(h.addEntry hunused hk htype hkey hbridge).same hsame, fun hnpu => (hnpu.addEntry hunused).same hsame,
      fun _ => ?_, fun hbad => absurd hok hbad⟩
    show (x.2.2.entryGet x.2.1).isSome = true
    rw [entryGet, hsame.entries]
    show (Tree.find (Tree.insert db.entries x.2.1 e) x.2.1).isSome = true
    rw [Tree.find_insert hunused, if_pos rfl]
    rfl

/-- **A remove** of an entry leaves the links, or drops an entry that is not in use. -/
theorem mapEntryRemove_cases {x} (hx : mapEntryRemove env entry_id db = some x) :
    (x.1 ≠ .success ∧ LinkTreesSame db x.2) ∨
    (x.1 = .success ∧ ∃ e, db.entryGet entry_id = some e ∧ mapEntryInUse env e db = false ∧
      LinkTreesSame (TunnelDb.dropEntry entry_id e { db with npu_entries := mark db.npu_entries entry_id false })
        x.2) := by
  unfold mapEntryRemove at hx
  cases ho : db.entryGet entry_id with
  | none =>
    rw [ho] at hx
    cases hx
    exact .inl ⟨by simp, .refl db⟩
  | some e =>
    rw [ho] at hx
    dsimp only at hx
    split at hx
    · cases hx
      exact .inl ⟨by simp, .refl db⟩
    rename_i hfree
    split at hx
    next hrefused =>
      cases hx
      exact .inl ⟨hrefused, .refused hrefused⟩
    rename_i hremoved
    split at hx
    · cases hx
    cases hx
    have hnpu := LinkTreesSame.taken (not_not.mp hremoved)
    have hsame : LinkTreesSame { db with npu_entries := mark db.npu_entries entry_id false }
        (db.call env.toTunnelEnv (.mapEntryRemove entry_id)).2 :=
      ⟨hnpu.maps, hnpu.tunnels, hnpu.entries, hnpu.npu, hnpu.bridges, hnpu.bitmap⟩
    exact .inr ⟨rfl, e, rfl, by simpa using hfree, hsame.dropEntry⟩

theorem mapEntryRemove_keeps (h : MapLinksInv others db)
    {x} (hx : mapEntryRemove env entry_id db = some x) :
    CallKeeps others (.entryRemove env entry_id) db (x.1, entry_id, x.2) := by
  rcases mapEntryRemove_cases hx with ⟨hbad, hsame⟩ | ⟨hok, e, ho, -, hsame⟩
  · exact .refused h _ hbad hsame
  · exact ⟨(h.dropEntry ho).same hsame, fun hnpu => hnpu.dropEntry.same hsame, fun _ => trivial,
      fun hbad => absurd hok hbad⟩

theorem mapEntrySet_bridge (hvalid : mapEntrySetValidate env e attr db = .success) :
    ∀ oid, attr = .bridgeIdValue oid → e.type = .vniToBridgeIf ∧ (db.bridges oid).isSome = true := by
  rintro oid rfl
  simp only [mapEntrySetValidate] at hvalid
  split at hvalid
  · cases hvalid
  rename_i htype
  split at hvalid
  · cases hvalid
  rename_i hlive
  exact ⟨not_not.mp htype,
    Option.ne_none_iff_isSome.mp fun hnone => hlive (Option.isNone_iff_eq_none.mpr hnone)⟩

theorem LinkTreesSame.update (h : LinkTreesSame db db₁) {e} :
    LinkTreesSame (mapEntryUpdate o e attr db) (mapEntryUpdate o e attr db₁) := by
  obtain ⟨hmaps, htunnels, hentries, hnpu, hbridges, hbitmap⟩ := h
  cases attr with
  | bridgeIdValue _ | vniIdValue _ =>
    unfold mapEntryUpdate TunnelDb.modEntry
    dsimp only [TunnelDb.modBridge]
    rw [hentries, hbridges]
    exact ⟨hmaps, htunnels, rfl, hnpu, rfl, hbitmap⟩
  | tunnelMapType _ | tunnelMap _ | bridgeIdKey _ | vniIdKey _ | unknown _ =>
    exact ⟨hmaps, htunnels, hentries, hnpu, hbridges, hbitmap⟩

theorem mapEntrySet_cases {db} :
    ((mapEntrySet env entry_id attr db).1 ≠ .success ∧ LinkTreesSame db (mapEntrySet env entry_id attr db).2) ∨
    ((mapEntrySet env entry_id attr db).1 = .success ∧ ∃ e, db.entryGet entry_id = some e ∧
      mapEntrySetValidate env e attr db = .success ∧
      LinkTreesSame (mapEntryUpdate entry_id e attr db) (mapEntrySet env entry_id attr db).2) := by
  unfold mapEntrySet
  dsimp only
  split
  next hvalid => exact .inl ⟨hvalid, .refl db⟩
  cases ho : db.entryGet entry_id with
  | none => exact .inl ⟨by simp, .refl db⟩
  | some e =>
    dsimp only
    split
    next hbad => exact .inl ⟨hbad, .refl db⟩
    rename_i hvalid
    split
    · exact .inl ⟨by simp, .refl db⟩
    split
    next hrefused => exact .inl ⟨hrefused, .refused hrefused⟩
    rename_i hset
    have hnpu := LinkTreesSame.taken (not_not.mp hset)
    have hsame : LinkTreesSame db (db.call env.toTunnelEnv (.mapEntrySet entry_id)).2 :=
      ⟨hnpu.maps, hnpu.tunnels, hnpu.entries, hnpu.npu, hnpu.bridges, hnpu.bitmap⟩
    exact .inr ⟨rfl, e, rfl, not_not.mp hvalid, hsame.update⟩

theorem mapEntrySet_keeps (h : MapLinksInv others db) :
    CallKeeps others (.entrySet env entry_id attr) db
      ((mapEntrySet env entry_id attr db).1, entry_id, (mapEntrySet env entry_id attr db).2) := by
  rcases mapEntrySet_cases with ⟨hbad, hsame⟩ | ⟨hok, e, ho, hvalid, hsame⟩
  · exact .refused h _ hbad hsame
  · exact ⟨(h.update ho (mapEntrySet_bridge hvalid)).same hsame,
      fun hnpu => hnpu.update.same hsame, fun _ => trivial, fun hbad => absurd hok hbad⟩

theorem tunnelCreate_refused {env} {attr_list} {dup_index : Nat}
    (hdup : env.tunnel_duplicate attr_list = some dup_index) (db) :
    tunnelCreate max_id env attr_list db = (getIndexedRetVal (.invalidAttribute 0) dup_index, .null, db) := by
  simp only [tunnelCreate, hdup, tunnelAttrListValidate]
  exact if_pos (by simp [getIndexedRetVal])

theorem tunnelCreate_keeps (h : MapLinksInv others db) (max_id : Nat) {env}
    {attr_list} (hout : MapOutsideFits (.tunnelCreate env attr_list)) :
    CallKeeps others (.tunnelCreate env attr_list) db (tunnelCreate max_id env attr_list db) := by
  cases hdup : env.tunnel_duplicate attr_list with
  | some dup_index =>
    rw [tunnelCreate_refused _ hdup]
    exact .refused h _ (by simp [getIndexedRetVal]) (.refl db)
  | none =>
    obtain ⟨hkept, ⟨hbad, htunnels, hcounts⟩ | ⟨hok, tunnel, hnone, htunnels, hcounts⟩⟩ :=
      @tunnelCreate_links env db max_id attr_list (hout hdup)
    · obtain ⟨hinv, hsame⟩ := h.sameCounts hkept htunnels hcounts
      exact ⟨hinv, fun hnpu => hnpu.kept hkept, fun hok => absurd hok hbad, fun _ => hsame⟩
    · refine ⟨h.addTunnel hkept hnone htunnels hcounts, fun hnpu => hnpu.kept hkept, fun _ => ?_, fun hbad => absurd hok hbad⟩
      show ((tunnelCreate max_id env attr_list db).2.2.tunnelObjGet _).isSome = true
      rw [tunnelObjGet, htunnels, Tree.find_insert hnone, if_pos rfl]
      rfl

theorem tunnelRemove_keeps (h : MapLinksInv others db) {env} (tunnel_id)
    (hfits : TunnelTreeTakesBack env) : CallKeeps others (.tunnelRemove env tunnel_id) db
      ((tunnelRemove env tunnel_id db).1, tunnel_id, (tunnelRemove env tunnel_id db).2) := by
  have hcounted : ∀ tunnel, db.tunnelObjGet tunnel_id = some tunnel → ∀ m, tunnel.mapperCount m ≠ 0 →
      ∃ map, db.maps m = some map ∧ tunnel.mapperCount m ≤ map.ref_count := by
    intro tunnel ht m hne
    obtain ⟨map, hmap⟩ := Option.isSome_iff_exists.mp (h.mappers _ _ ht m hne)
    refine ⟨map, hmap, ?_⟩
    have huses : db.mapperUses m = _ + tunnel.mapperCount m :=
      Tree.total_erase h.tunnels (Tree.mem_of_find ht) fun tunnel => tunnel.mapperCount m
    have hcount := h.counts m map hmap
    omega
  obtain ⟨hkept, ⟨hbad, hsame⟩ | ⟨tunnel, ht, ⟨hbad, hmaps, htunnels | ⟨-, hlost⟩⟩ | ⟨hok, htunnels, hmaps⟩⟩⟩ :=
    @tunnelRemove_links env db tunnel_id hcounted
  · rw [hsame]
    exact .refused h _ hbad (.refl db)
  · obtain ⟨hinv, hsame⟩ := h.restoreTunnel hkept hmaps ht htunnels
    exact ⟨hinv, fun hnpu => hnpu.kept hkept, fun hok => absurd hok hbad, fun _ => hsame⟩
  · obtain ⟨log, hrefused, hinsert⟩ := hlost
    exact absurd (hfits log tunnel_id hrefused) hinsert
  · exact ⟨h.dropTunnel hkept ht htunnels hmaps, fun hnpu => hnpu.kept hkept, fun _ => trivial, fun hbad => absurd hok hbad⟩

theorem mapLinkCall_keeps (h : MapLinksInv others db) (hout : MapOutsideFits op)
    (hfits : MapOpFits op db) (hx : mapLinkCall max_id op db = some x) :
    CallKeeps others op db x := by
  cases op with
  | mapCreate env attr_list tunnel_map_id =>
    cases hx
    exact tunnelMapCreate_keeps h hfits
  | mapRemove tunnel_map_id =>
    cases hx
    exact tunnelMapRemove_keeps h
  | entryCreate env attr_list => exact mapEntryCreate_keeps h hout hfits hx
  | entryRemove env entry_id =>
    obtain ⟨y, hy, rfl⟩ := Option.map_eq_some_iff.mp hx
    exact mapEntryRemove_keeps h hy
  | entrySet env entry_id attr =>
    cases hx
    exact mapEntrySet_keeps h
  | tunnelCreate env attr_list =>
    cases hx
    exact tunnelCreate_keeps h _ hout
  | tunnelRemove env tunnel_id =>
    cases hx
    exact tunnelRemove_keeps h _ hfits

theorem mapLinkStep_inv (h : MapLinksInv others db ∧ NpuEntriesExact db)
    (hout : MapOutsideFits op) (hfits : MapOpFits op db) :
    MapLinksInv others (mapLinkStep max_id op db) ∧ NpuEntriesExact (mapLinkStep max_id op db) := by
  unfold mapLinkStep
  cases hx : mapLinkCall max_id op db with
  | none => exact h
  | some x =>
    have hkeeps := mapLinkCall_keeps _ op h.1 hout hfits hx
    exact ⟨hkeeps.inv, hkeeps.npu h.2⟩

theorem MapLinksInv.links (h : MapLinksInv others db) (hnpu : NpuEntriesExact db) {max_id : Nat} :
    MapLinks max_id others (fun op db => MapOutsideFits op ∧ MapOpFits op db) db where
  counts := h.counts
  listed := h.listed
  placed := fun o e he => by
    obtain ⟨map, hmap, -⟩ := h.typed o e he
    rw [hmap]
    rfl
  npu := hnpu
  keys := h.keys
  bridges := h.bridges
  named := h.named
  made := fun op x hok hx hsuccess => (mapLinkCall_keeps max_id op h hok.1 hok.2 hx).made hsuccess
  failed := fun op x hok hx hbad => (mapLinkCall_keeps max_id op h hok.1 hok.2 hx).failed hbad

end Calls

/-! ## Runs -/

theorem MapLinksInv.initial (fib) (bridges : Oid → Option Nat) :
    MapLinksInv bridges (.initial fib bridges) where
  entries := List.nodup_nil
  tunnels := List.nodup_nil
  counts := fun _ _ hmap => nomatch hmap
  listed := fun _ _ hmap => nomatch hmap
  typed := fun _ _ he => nomatch he
  mappers := fun _ _ ht => nomatch ht
  keys := fun _ _ _ _ he => nomatch he
  bridges := fun _ => Option.map_id'.symm
  named := fun _ _ he => nomatch he

/-- **Maps, entries and tunnels stay linked**, in every run of steps that keep them so. -/
theorem mapLinks_of_run (max_id : Nat) (fib : Fib) (bridges : Oid → Option Nat) {db : TunnelDb}
    (hrun : Run (mapLinkStep max_id) (fun op db => MapOutsideFits op ∧ MapOpFits op db) (.initial fib bridges) db) :
    MapLinks max_id bridges (fun op db => MapOutsideFits op ∧ MapOpFits op db) db := by
  obtain ⟨hinv, hnpu⟩ := hrun.induct (P := fun db => MapLinksInv bridges db ∧ NpuEntriesExact db)
    (fun op _ h hok => mapLinkStep_inv _ op h hok.1 hok.2) ⟨.initial fib _, fun _ => rfl⟩
  exact hinv.links hnpu

def oneBridge (b : Oid) : Option Nat := if b = ⟨.bridge, 1⟩ then some 1 else none

theorem mapLinks_of_run_entry :
    MapLinks 4 oneBridge (fun op db => MapOutsideFits op ∧ MapOpFits op db)
      (mapLinkStep 4 (.entryCreate .good [.tunnelMapType .bridgeIfToVni, .tunnelMap (uoidCreate .tunnelMap 0),
          .bridgeIdKey ⟨.bridge, 1⟩, .vniIdValue 5])
        (mapLinkStep 4 (.mapCreate .good [.type .bridgeIfToVni] .null) (.initial oneRifDefaults oneBridge))) := by
  have hmap : Run (mapLinkStep 4) (fun op db => MapOutsideFits op ∧ MapOpFits op db)
      (.initial oneRifDefaults oneBridge) _ :=
    .one (.mapCreate .good [.type .bridgeIfToVni] .null) (by
      refine ⟨trivial, fun _ _ => ⟨⟨by decide, fun attr hattr => ?_⟩, by decide, fun _ _ => rfl⟩⟩
      exact ⟨_, List.mem_singleton.mp hattr, rfl⟩)
  have hentry := hmap.snoc (.entryCreate .good [.tunnelMapType .bridgeIfToVni, .tunnelMap (uoidCreate .tunnelMap 0),
      .bridgeIdKey ⟨.bridge, 1⟩, .vniIdValue 5]) (by
    refine ⟨⟨fun entries b => ?_, fun entries vnid => ?_⟩, fun _ _ _ => rfl⟩
    · simp [TunnelMapEnv.good]
    · simp [TunnelMapEnv.good])
  exact mapLinks_of_run 4 _ _ hentry

def fullMapEnv : TunnelMapEnv :=
  { TunnelMapEnv.good with
    outside := fun _ c =>
      match c with
      | .mapInsert _ => .failure
      | _ => .success }

/-- The create of a map succeeds, and there is no map. -/
theorem not_mapLinks : ¬ ∀ (max_id : Nat) (fib : Fib) (bridges : Oid → Option Nat) (db : TunnelDb),
    Run (mapLinkStep max_id) (fun op _ => MapOutsideFits op) (.initial fib bridges) db →
      MapLinks max_id bridges (fun op _ => MapOutsideFits op) db := by
  intro h
  have hlinks := h 4 oneRifDefaults oneBridge _ (.nil _)
  have hmade := hlinks.made (.mapCreate fullMapEnv [.type .bridgeIfToVni] .null) _ trivial rfl (by decide)
  revert hmade
  show ¬ (_ : Bool) = true
  decide

end OpxSai
