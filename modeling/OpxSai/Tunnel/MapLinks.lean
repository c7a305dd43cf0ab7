import OpxSai.Lib.Run
import OpxSai.Tunnel.MapCounts
import OpxSai.Tunnel.TunnelExact

/-!
# Tunnel maps, their entries and their tunnels stay linked

A map counts its entries and the places that it has on lists of tunnels. An entry is on the list of its map,
in the tree and in the NPU, and counts in its bridge. No two entries of a map have one key.

A create of a map returns SUCCESS whatever came of it, and then nothing was written to the id. An entry that
the tree does not take stays in the NPU. A tunnel that the NPU keeps and the tree does not take back is gone,
and its maps still count it. Steps that meet none of these keep the links.
-/

namespace OpxSai

open TunnelDb
variable {n b : Option Nat} {c : TunnelCall} {m o t : Oid} {db' : TunnelDb} {tunnel : TunnelObj}

/-! ## The links -/

/-- What is looked up in a map: a bridge on the way in, a VNI on the way out. -/
def TunnelMapEntry.mapKey (e : TunnelMapEntry) : Oid ⊕ Nat :=
  if e.type = .bridgeIfToVni then .inl e.key.bridge_oid else .inr e.key.vnid

variable {e : TunnelMapEntry}

namespace TunnelDb

def entriesOf (db : TunnelDb) (map_id : Oid) : Nat :=
  db.entries.countP fun e => decide (e.2.tunnel_map_id = map_id)

/-- The places that a map has on lists of live tunnels. -/
def mapperUses (db : TunnelDb) (map_id : Oid) : Nat :=
  Tree.total db.tunnels fun tunnel => tunnel.mapperCount map_id

def entriesOn (db : TunnelDb) (bridge_oid : Oid) : Nat :=
  db.entries.countP fun e => decide (e.2.bridge = bridge_oid)

def ListsEntries (db : TunnelDb) (map_id : Oid) (entry_list : List Oid) : Prop :=
  ∀ o, entry_list.count o = if (db.entryGet o).map TunnelMapEntry.tunnel_map_id = some map_id then 1 else 0

end TunnelDb

inductive MapLinkOp where
  | mapCreate (env : TunnelMapEnv) (attr_list : List TunnelMapAttr) (tunnel_map_id : Oid)
  | mapRemove (tunnel_map_id : Oid)
  | entryCreate (env : TunnelMapEnv) (attr_list : List TunnelMapEntryAttr)
  | entryRemove (env : TunnelMapEnv) (tunnel_map_entry_id : Oid)
  | entrySet (env : TunnelMapEnv) (tunnel_map_entry_id : Oid) (attr : TunnelMapEntryAttr)
  | tunnelCreate (env : TunnelEnv) (attr_list : List TunnelAttr)
  | tunnelRemove (env : TunnelEnv) (tunnel_id : Oid)

def mapLinkCall (max_id : Nat) : MapLinkOp → TunnelDb → Option (Status × Oid × TunnelDb)
  | .mapCreate env attr_list tunnel_map_id, db => some (tunnelMapCreate env attr_list tunnel_map_id db)
  | .mapRemove tunnel_map_id, db =>
    let x := tunnelMapRemove tunnel_map_id db
    some (x.1, tunnel_map_id, x.2)
  | .entryCreate env attr_list, db => mapEntryCreate env attr_list db
  | .entryRemove env tunnel_map_entry_id, db =>
    (mapEntryRemove env tunnel_map_entry_id db).map fun x => (x.1, tunnel_map_entry_id, x.2)
  | .entrySet env tunnel_map_entry_id attr, db =>
    let x := mapEntrySet env tunnel_map_entry_id attr db
    some (x.1, tunnel_map_entry_id, x.2)
  | .tunnelCreate env attr_list, db => some (OpxSai.tunnelCreate max_id env attr_list db)
  | .tunnelRemove env tunnel_id, db =>
    let x := OpxSai.tunnelRemove env tunnel_id db
    some (x.1, tunnel_id, x.2)

/-- One step. A call that reads through a null pointer does not return. -/
def mapLinkStep (max_id : Nat) (op : MapLinkOp) (db : TunnelDb) : TunnelDb :=
  (mapLinkCall max_id op db).elim db fun x => x.2.2

def MapLinkOp.Made : MapLinkOp → Oid → TunnelDb → Prop
  | .mapCreate .., id, db => (db.maps id).isSome = true
  | .entryCreate .., id, db => (db.entryGet id).isSome = true
  | .tunnelCreate .., id, db => (db.tunnelObjGet id).isSome = true
  | _, _, _ => True

structure LinksSame (db db' : TunnelDb) : Prop where
  maps : ∀ m, (db'.maps m).map TunnelMap.core = (db.maps m).map TunnelMap.core
  entries : db'.entries = db.entries
  npu : db'.npu_entries = db.npu_entries
  bridges : db'.bridges = db.bridges
  tunnels : ∀ t, (db'.tunnelObjGet t).map (fun tunnel => (tunnel.mappers true, tunnel.mappers false)) =
    (db.tunnelObjGet t).map fun tunnel => (tunnel.mappers true, tunnel.mappers false)

/-- **The links** of maps, entries, tunnels and bridges; a bridge had so many references of others. What a
call returns is said of calls that meet a condition. -/
structure MapLinks (max_id : Nat) (others : Oid → Option Nat) (ok : MapLinkOp → TunnelDb → Prop)
    (db : TunnelDb) : Prop where
  counts : ∀ m map, db.maps m = some map → map.ref_count = db.entriesOf m + db.mapperUses m
  listed : ∀ m map, db.maps m = some map → db.ListsEntries m map.tunnel_map_entry_list
  placed : ∀ o e, db.entryGet o = some e → (db.maps e.tunnel_map_id).isSome = true
  npu : ∀ o, db.npu_entries o = (db.entryGet o).isSome
  keys : ∀ o o' e e', db.entryGet o = some e → db.entryGet o' = some e' →
    e.tunnel_map_id = e'.tunnel_map_id → e.mapKey = e'.mapKey → o = o'
  bridges : ∀ b, db.bridges b = (others b).map fun n => n + db.entriesOn b
  named : ∀ o e, db.entryGet o = some e → (db.bridges e.bridge).isSome = true
  made : ∀ op x, ok op db → mapLinkCall max_id op db = some x → x.1 = .success → op.Made x.2.1 x.2.2
  failed : ∀ op x, ok op db → mapLinkCall max_id op db = some x → x.1 ≠ .success → LinksSame db x.2.2

/-- The outside looks entries up in the list that it is given, and finds attributes that are there twice. -/
def MapOutsideFits : MapLinkOp → Prop
  | .entryCreate env _ =>
    (∀ entries b, env.entry_by_bridge entries b = true ↔ ∃ e ∈ entries, e.key.bridge_oid = b) ∧
      ∀ entries vnid, env.entry_by_vnid entries vnid = true ↔ ∃ e ∈ entries, e.key.vnid = vnid
  | .tunnelCreate env attr_list =>
    env.tunnel_duplicate attr_list = none → ∀ is_encap, attr_list.countP (TunnelAttr.isMappers is_encap) ≤ 1
  | _ => True

/-- A list of attributes gives a map a type, and nothing else. -/
def MapAttrsFill (attr_list : List TunnelMapAttr) : Prop :=
  attr_list ≠ [] ∧ ∀ attr ∈ attr_list, ∃ s32, attr = .type s32 ∧ tunnelMapValidateType s32 = .success

/-- **When a step keeps the links.** A create of a map that is not refused fills and places it; the tree
takes an entry that the NPU took, and takes a tunnel back that the NPU keeps. -/
def MapOpFits : MapLinkOp → TunnelDb → Prop
  | .mapCreate env attr_list _, db =>
    tunnelAttrListValidate (env.map_duplicate attr_list) (env.map_validate attr_list) = .success →
      env.outside db.outside_log .nodeAlloc = .success →
        MapAttrsFill attr_list ∧ (tunnelMapIdGenerate env db).isSome = true ∧
          ∀ log id, env.outside log (.mapInsert id) = .success
  | .entryCreate env _, _ => ∀ log id, env.outside log (.mapEntryCreate id) = .success →
      env.outside (env.outside.log (.mapEntryCreate id) log) (.mapEntryInsert id) = .success
  | .tunnelRemove env _, _ => TunnelTreeTakesBack env
  | _, _ => True

/-! ## The invariant -/

structure MapLinksInv (others : Oid → Option Nat) (db : TunnelDb) : Prop where
  entries : Tree.Keyed db.entries
  tunnels : Tree.Keyed db.tunnels
  counts : ∀ m map, db.maps m = some map → map.ref_count = db.entriesOf m + db.mapperUses m
  listed : ∀ m map, db.maps m = some map → db.ListsEntries m map.tunnel_map_entry_list
  /-- An entry has the type of its map. -/
  typed : ∀ o e, db.entryGet o = some e → ∃ map, db.maps e.tunnel_map_id = some map ∧ map.type = e.type
  /-- The maps on lists of tunnels are live. -/
  mappers : ∀ t tunnel, db.tunnelObjGet t = some tunnel → ∀ m, tunnel.mapperCount m ≠ 0 →
    (db.maps m).isSome = true
  keys : ∀ o o' e e', db.entryGet o = some e → db.entryGet o' = some e' →
    e.tunnel_map_id = e'.tunnel_map_id → e.mapKey = e'.mapKey → o = o'
  bridges : ∀ b, db.bridges b = (others b).map fun n => n + db.entriesOn b
  named : ∀ o e, db.entryGet o = some e → (db.bridges e.bridge).isSome = true

def NpuEntriesExact (db : TunnelDb) : Prop := ∀ o, db.npu_entries o = (db.entryGet o).isSome

structure LinkTreesSame (db db' : TunnelDb) : Prop where
  maps : db'.maps = db.maps
  tunnels : db'.tunnels = db.tunnels
  entries : db'.entries = db.entries
  npu : db'.npu_entries = db.npu_entries
  bridges : db'.bridges = db.bridges
  bitmap : db'.tunnel_id_bitmap = db.tunnel_id_bitmap

section Same

variable {others : Oid → Option Nat} {db db₁ db₂ : TunnelDb}

theorem LinkTreesSame.refl (db) : LinkTreesSame db db := ⟨rfl, rfl, rfl, rfl, rfl, rfl⟩

theorem LinkTreesSame.trans (h : LinkTreesSame db db₁) (k : LinkTreesSame db₁ db₂) : LinkTreesSame db db₂ :=
  ⟨k.maps.trans h.maps, k.tunnels.trans h.tunnels, k.entries.trans h.entries, k.npu.trans h.npu,
    k.bridges.trans h.bridges, k.bitmap.trans h.bitmap⟩

theorem LinkTreesSame.linksSame (h : LinkTreesSame db db₁) : LinksSame db db₁ :=
  ⟨fun m => by rw [h.maps], h.entries, h.npu, h.bridges, fun t => by rw [tunnelObjGet, h.tunnels]; rfl⟩

theorem MapLinksInv.same (h : MapLinksInv others db) (hsame : LinkTreesSame db db₁) : MapLinksInv others
    db₁ := by
  obtain ⟨hmaps, htunnels, hentries, -, hbridges, -⟩ := hsame
  obtain ⟨_, _, _, _, _, _, _, _, _, _, _, _⟩ := db
  obtain ⟨_, _, _, _, _, _, _, _, _, _, _, _⟩ := db₁
  dsimp only at hmaps htunnels hentries hbridges
  subst hmaps htunnels hentries hbridges
  exact ⟨h.entries, h.tunnels, h.counts, h.listed, h.typed, h.mappers, h.keys, h.bridges, h.named⟩

theorem NpuEntriesExact.same (h : NpuEntriesExact db) (hsame : LinkTreesSame db db₁) : NpuEntriesExact db₁ := by
  intro o
  rw [hsame.npu, entryGet, hsame.entries]
  exact h o

theorem LinkTreesSame.call (db) (env)
    (hc : ∀ db' : TunnelDb, LinkTreesSame db' (db'.apply c)) : LinkTreesSame db (db.call env c).2 := by
  simp only [TunnelDb.call]
  split
  · have happly := hc { db with outside_log := env.outside.log c db.outside_log }
    exact ⟨happly.maps, happly.tunnels, happly.entries, happly.npu, happly.bridges, happly.bitmap⟩
  · exact ⟨rfl, rfl, rfl, rfl, rfl, rfl⟩

theorem LinkTreesSame.refused {env} (hc : (db.call env c).1 ≠ .success) :
    LinkTreesSame db (db.call env c).2 := by
  simp only [TunnelDb.call] at hc ⊢
  rw [if_neg hc]
  exact ⟨rfl, rfl, rfl, rfl, rfl, rfl⟩

theorem LinkTreesSame.taken {env} (hc : (db.call env c).1 = .success) :
    LinkTreesSame (({ db with outside_log := env.outside.log c db.outside_log } : TunnelDb).apply c)
      (db.call env c).2 := by
  simp only [TunnelDb.call] at hc ⊢
  rw [if_pos hc]
  exact .refl _

end Same

/-! ## Maps come and go -/

section Updates

variable {others : Oid → Option Nat} {db : TunnelDb}

theorem mem_entries_get (h : MapLinksInv others db) {x} (hx : x ∈ db.entries) :
    db.entryGet x.1 = some x.2 := Tree.find_of_mem h.entries hx

theorem MapLinksInv.entriesOf_dead (h : MapLinksInv others db) (hnone : db.maps m = none) :
    db.entriesOf m = 0 := by
  refine List.countP_eq_zero.mpr fun x hx hm => ?_
  obtain ⟨map, hmap, -⟩ := h.typed x.1 x.2 (mem_entries_get h hx)
  rw [of_decide_eq_true hm, hnone] at hmap
  cases hmap

theorem MapLinksInv.mapperUses_dead (h : MapLinksInv others db) (hnone : db.maps m = none) :
    db.mapperUses m = 0 := by
  refine Tree.total_eq_zero.mpr fun x hx => ?_
  by_contra hne
  have hlive := h.mappers x.1 x.2 (Tree.find_of_mem h.tunnels hx) m hne
  rw [hnone] at hlive
  cases hlive

theorem setMap_maps (m) (k) (o) :
    (db.setMap m k).maps o = if o = m then k else db.maps o := rfl

theorem MapLinksInv.addMap (h : MapLinksInv others db) (hnone : db.maps m = none) (type) :
    MapLinksInv others (db.setMap m (some ⟨type, 0, [], []⟩)) where
  entries := h.entries
  tunnels := h.tunnels
  counts := fun o map hmap => by
    rw [setMap_maps] at hmap
    show _ = db.entriesOf o + db.mapperUses o
    split at hmap
    next heq =>
      cases hmap
      rw [heq, h.entriesOf_dead hnone, h.mapperUses_dead hnone]
    · exact h.counts o map hmap
  listed := fun o map hmap => by
    rw [setMap_maps] at hmap
    split at hmap
    next heq =>
      cases hmap
      intro x
      rw [List.count_nil, if_neg]
      intro hx
      obtain ⟨e, he, hm⟩ := Option.map_eq_some_iff.mp hx
      obtain ⟨map, hmap, -⟩ := h.typed x e he
      rw [hm, heq, hnone] at hmap
      cases hmap
    · exact h.listed o map hmap
  typed := fun o e he => by
    obtain ⟨map, hmap, htype⟩ := h.typed o e he
    refine ⟨map, ?_, htype⟩
    rw [setMap_maps, if_neg]
    · exact hmap
    intro heq
    rw [heq, hnone] at hmap
    cases hmap
  mappers := fun t tunnel ht o hne => by
    rw [setMap_maps]
    split
    · rfl
    · exact h.mappers t tunnel ht o hne
  keys := h.keys
  bridges := h.bridges
  named := h.named

theorem MapLinksInv.dropMap (h : MapLinksInv others db) {k} (hk : db.maps m = some k)
    (hzero : k.ref_count = 0) : MapLinksInv others (db.setMap m none) := by
  have hcounts := h.counts m k hk
  rw [hzero] at hcounts
  exact {
    entries := h.entries
    tunnels := h.tunnels
    counts := fun o map hmap => by
      rw [setMap_maps] at hmap
      split at hmap
      · cases hmap
      · exact h.counts o map hmap
    listed := fun o map hmap => by
      rw [setMap_maps] at hmap
      split at hmap
      · cases hmap
      · exact h.listed o map hmap
    typed := fun o e he => by
      obtain ⟨map, hmap, htype⟩ := h.typed o e he
      refine ⟨map, ?_, htype⟩
      rw [setMap_maps, if_neg]
      · exact hmap
      intro heq
      have hnone : db.entriesOf m = 0 := by omega
      refine List.countP_eq_zero.mp hnone (o, e) (Tree.mem_of_find he) ?_
      exact decide_eq_true heq
    mappers := fun t tunnel ht o hne => by
      rw [setMap_maps, if_neg]
      · exact h.mappers t tunnel ht o hne
      rintro rfl
      have hnone : db.mapperUses o = 0 := by omega
      exact hne (Tree.total_eq_zero.mp hnone (t, tunnel) (Tree.mem_of_find ht))
    keys := h.keys
    bridges := h.bridges
    named := h.named }

/-! ## Entries come, change and go -/

theorem bridges_counted {k k' : Nat} {c : Prop} [Decidable c] (hk : k' = k + if c then 1 else 0)
    (hb : b = n.map fun n => n + k) :
    (if c then b.map fun n => n + 1 else b) = n.map fun n => n + k' := by
  subst hk hb
  split
  · rw [Option.map_map]
    rfl
  · rfl

theorem bridges_uncounted {k k' : Nat} {c : Prop} [Decidable c] (hk : k = k' + if c then 1 else 0)
    (hb : b = n.map fun n => n + k) :
    (if c then b.map fun n => n - 1 else b) = n.map fun n => n + k' := by
  subst hk hb
  split
  · rw [Option.map_map]
    rfl
  · rfl

theorem MapLinksInv.addEntry (h : MapLinksInv others db) (hnone : db.entryGet o = none)
    {k} (hk : db.maps e.tunnel_map_id = some k) (htype : k.type = e.type)
    (hkey : ∀ o' e', db.entryGet o' = some e' → e'.tunnel_map_id = e.tunnel_map_id → e'.mapKey ≠ e.mapKey)
    (hbridge : (db.bridges e.bridge).isSome = true) :
    MapLinksInv others (TunnelDb.addEntry o e { db with npu_entries := mark db.npu_entries o true }) := by
  have hget : ∀ o', Tree.find (Tree.insert db.entries o e) o' = if o' = o then some e else db.entryGet o' :=
    Tree.find_insert hnone e
  have hof : ∀ m, (Tree.insert db.entries o e).countP (fun x => decide (x.2.tunnel_map_id = m)) =
      db.entriesOf m + if e.tunnel_map_id = m then 1 else 0 := fun m => by
    rw [Tree.countP_insert _ o e fun x => decide (x.tunnel_map_id = m)]
    simp only [decide_eq_true_eq]
    rfl
  have hon : ∀ b, (Tree.insert db.entries o e).countP (fun x => decide (x.2.bridge = b)) =
      db.entriesOn b + if b = e.bridge then 1 else 0 := fun b => by
    rw [Tree.countP_insert _ o e fun x => decide (x.bridge = b)]
    simp only [decide_eq_true_eq]
    exact congrArg (db.entriesOn b + ·) (if_congr eq_comm rfl rfl)
  exact {
    entries := h.entries.insert e hnone
    tunnels := h.tunnels
    counts := fun m map hmap => by
      change (if m = e.tunnel_map_id then (db.maps m).map _ else db.maps m) = some map at hmap
      show map.ref_count = (Tree.insert db.entries o e).countP _ + db.mapperUses m
      rw [hof]
      split at hmap
      next heq =>
        obtain ⟨k', hk', rfl⟩ := Option.map_eq_some_iff.mp hmap
        have hcount := h.counts m k' hk'
        rw [if_pos heq.symm]
        show k'.ref_count + 1 = _
        omega
      rename_i hne
      rw [if_neg (Ne.symm hne)]
      exact h.counts m map hmap
    listed := fun m map hmap x => by
      change (if m = e.tunnel_map_id then (db.maps m).map _ else db.maps m) = some map at hmap
      show map.tunnel_map_entry_list.count x = if (Tree.find (Tree.insert db.entries o e) x).map _ = some m then 1 else 0
      rw [hget]
      split at hmap
      next heq =>
        obtain ⟨k', hk', rfl⟩ := Option.map_eq_some_iff.mp hmap
        have hlisted := h.listed m k' hk' x
        show (k'.tunnel_map_entry_list ++ [o]).count x = _
        rw [count_concat_oid, hlisted]
        by_cases hx : x = o
        · rw [if_pos hx, if_pos hx, hx, hnone, heq]
          simp
        · rw [if_neg hx, if_neg hx, Nat.add_zero]
      next hne =>
        rw [h.listed m map hmap x]
        by_cases hx : x = o
        · rw [if_pos hx, hx, hnone, Option.map_some, if_neg (by simp), if_neg]
          exact fun heq => hne (Option.some.inj heq).symm
        · rw [if_neg hx]
    typed := fun x y hy => by
      change Tree.find (Tree.insert db.entries o e) x = some y at hy
      show ∃ map, (if y.tunnel_map_id = e.tunnel_map_id then (db.maps y.tunnel_map_id).map _
        else db.maps y.tunnel_map_id) = some map ∧ map.type = y.type
      have hold : ∃ map, db.maps y.tunnel_map_id = some map ∧ map.type = y.type := by
        rw [hget] at hy
        split at hy
        · cases hy
          exact ⟨k, hk, htype⟩
        · exact h.typed x y hy
      obtain ⟨map, hmap, htyped⟩ := hold
      rw [hmap]
      split
      · exact ⟨_, rfl, htyped⟩
      · exact ⟨map, rfl, htyped⟩
    mappers := fun t tunnel ht m hne => by
      show (if m = e.tunnel_map_id then (db.maps m).map _ else db.maps m).isSome = true
      have hlive := h.mappers t _ ht m hne
      split
      · rw [Option.isSome_map]
        exact hlive
      · exact hlive
    keys := fun x x' y y' hy hy' hmap hkeys => by
      change Tree.find (Tree.insert db.entries o e) x = some y at hy
      change Tree.find (Tree.insert db.entries o e) x' = some y' at hy'
      rw [hget] at hy hy'
      split at hy <;> split at hy'
      next heq heq' => rw [heq, heq']
      · cases hy
        exact absurd hkeys.symm (hkey x' y' hy' hmap.symm)
      · cases hy'
        exact absurd hkeys (hkey x y hy hmap)
      · exact h.keys x x' y y' hy hy' hmap hkeys
    bridges := fun b => bridges_counted (hon b) (h.bridges b)
    named := fun x y hy => by
      change Tree.find (Tree.insert db.entries o e) x = some y at hy
      have hold : (db.bridges y.bridge).isSome = true := by
        rw [hget] at hy
        split at hy
        · cases hy
          exact hbridge
        · exact h.named x y hy
      show (if y.bridge = e.bridge then (db.bridges y.bridge).map _ else db.bridges y.bridge).isSome = true
      split
      · rw [Option.isSome_map]
        exact hold
      · exact hold }

theorem MapLinksInv.dropEntry (h : MapLinksInv others db) (ho : db.entryGet o = some e) :
    MapLinksInv others (TunnelDb.dropEntry o e { db with npu_entries := mark db.npu_entries o false }) := by
  have hget : ∀ o', Tree.find (Tree.erase db.entries o) o' = if o' = o then none else db.entryGet o' :=
    Tree.find_erase _ o
  have hmem := Tree.mem_of_find ho
  have hof : ∀ m, db.entriesOf m =
      (Tree.erase db.entries o).countP (fun x => decide (x.2.tunnel_map_id = m)) +
        if e.tunnel_map_id = m then 1 else 0 := fun m => by
    rw [TunnelDb.entriesOf, Tree.countP_erase h.entries hmem (fun x => decide (x.tunnel_map_id = m))]
    simp only [decide_eq_true_eq]
  have hon : ∀ b, db.entriesOn b =
      (Tree.erase db.entries o).countP (fun x => decide (x.2.bridge = b)) + if b = e.bridge then 1 else 0 := fun b => by
    rw [TunnelDb.entriesOn, Tree.countP_erase h.entries hmem (fun x => decide (x.bridge = b))]
    simp only [decide_eq_true_eq]
    exact congrArg (_ + ·) (if_congr eq_comm rfl rfl)
  have hold : ∀ {x y}, Tree.find (Tree.erase db.entries o) x = some y → x ≠ o ∧ db.entryGet x = some y := by
    intro x y hy
    rw [hget] at hy
    split at hy
    · cases hy
    next hne => exact ⟨hne, hy⟩
  exact {
    entries := h.entries.erase o
    tunnels := h.tunnels
    counts := fun m map hmap => by
      change (if m = e.tunnel_map_id then (db.maps m).map _ else db.maps m) = some map at hmap
      show map.ref_count = (Tree.erase db.entries o).countP _ + db.mapperUses m
      have hcount := hof m
      split at hmap
      next heq =>
        obtain ⟨k', hk', rfl⟩ := Option.map_eq_some_iff.mp hmap
        have hrefs := h.counts m k' hk'
        rw [if_pos heq.symm] at hcount
        show k'.ref_count - 1 = _
        omega
      rename_i hne
      have hrefs := h.counts m map hmap
      rw [if_neg (Ne.symm hne)] at hcount
      omega
    listed := fun m map hmap x => by
      change (if m = e.tunnel_map_id then (db.maps m).map _ else db.maps m) = some map at hmap
      show map.tunnel_map_entry_list.count x = if (Tree.find (Tree.erase db.entries o) x).map _ = some m then 1 else 0
      rw [hget]
      split at hmap
      next heq =>
        obtain ⟨k', hk', rfl⟩ := Option.map_eq_some_iff.mp hmap
        have hlisted := h.listed m k' hk' x
        show (k'.tunnel_map_entry_list.erase o).count x = _
        by_cases hx : x = o
        · rw [hx] at hlisted ⊢
          rw [List.count_erase_self, hlisted, ho, heq]
          simp
        · rw [List.count_erase_of_ne hx, hlisted, if_neg hx]
      next hne =>
        rw [h.listed m map hmap x]
        by_cases hx : x = o
        · rw [if_pos hx, hx, ho, Option.map_none, if_neg, if_neg (by simp)]
          exact fun heq => hne (Option.some.inj heq).symm
        · rw [if_neg hx]
    typed := fun x y hy => by
      obtain ⟨-, hy⟩ := hold hy
      show ∃ map, (if y.tunnel_map_id = e.tunnel_map_id then (db.maps y.tunnel_map_id).map _
        else db.maps y.tunnel_map_id) = some map ∧ map.type = y.type
      obtain ⟨map, hmap, htyped⟩ := h.typed x y hy
      rw [hmap]
      split
      · exact ⟨_, rfl, htyped⟩
      · exact ⟨map, rfl, htyped⟩
    mappers := fun t tunnel ht m hne => by
      show (if m = e.tunnel_map_id then (db.maps m).map _ else db.maps m).isSome = true
      have hlive := h.mappers t _ ht m hne
      split
      · rw [Option.isSome_map]
        exact hlive
      · exact hlive
    keys := fun x x' y y' hy hy' hmap hkeys => h.keys x x' y y' (hold hy).2 (hold hy').2 hmap hkeys
    bridges := fun b => bridges_uncounted (hon b) (h.bridges b)
    named := fun x y hy => by
      show (if y.bridge = e.bridge then (db.bridges y.bridge).map _ else db.bridges y.bridge).isSome = true
      have hlive := h.named x y (hold hy).2
      split
      · rw [Option.isSome_map]
        exact hlive
      · exact hlive }

theorem NpuEntriesExact.addEntry (h : NpuEntriesExact db) (hnone : db.entryGet o = none) :
    NpuEntriesExact (TunnelDb.addEntry o e { db with npu_entries := mark db.npu_entries o true }) := by
  intro x
  show mark db.npu_entries o true x = (Tree.find (Tree.insert db.entries o e) x).isSome
  rw [Tree.find_insert hnone, mark]
  split
  · rfl
  · exact h x

theorem NpuEntriesExact.dropEntry (h : NpuEntriesExact db) {o} :
    NpuEntriesExact (TunnelDb.dropEntry o e { db with npu_entries := mark db.npu_entries o false }) := by
  intro x
  show mark db.npu_entries o false x = (Tree.find (Tree.erase db.entries o) x).isSome
  rw [Tree.find_erase, mark]
  split
  · rfl
  · exact h x

theorem MapLinksInv.modEntry (h : MapLinksInv others db)
    (ho : db.entryGet o = some e) {f : TunnelMapEntry → TunnelMapEntry}
    (hmap : ∀ e, (f e).tunnel_map_id = e.tunnel_map_id) (htype : ∀ e, (f e).type = e.type)
    (hkey : ∀ e, (f e).mapKey = e.mapKey) {bridges' : Oid → Option Nat}
    (hbridges : ∀ b, bridges' b = (others b).map fun n =>
      n + (Tree.modify db.entries o f).countP fun x => decide (x.2.bridge = b))
    (hlive : ∀ b, (db.bridges b).isSome = true → (bridges' b).isSome = true)
    (hnamed : (bridges' (f e).bridge).isSome = true) :
    MapLinksInv others { db with entries := Tree.modify db.entries o f, bridges := bridges' } := by
  have hget : ∀ o', Tree.find (Tree.modify db.entries o f) o' =
      if o' = o then (db.entryGet o').map f else db.entryGet o' := fun o' => Tree.find_modify ..
  -- what is there after the change was there before it
  have hold : ∀ {x y}, Tree.find (Tree.modify db.entries o f) x = some y →
      ∃ y₀, db.entryGet x = some y₀ ∧ y.tunnel_map_id = y₀.tunnel_map_id ∧ y.type = y₀.type ∧
        y.mapKey = y₀.mapKey := by
    intro x y hy
    rw [hget] at hy
    split at hy
    · obtain ⟨y₀, hy₀, rfl⟩ := Option.map_eq_some_iff.mp hy
      exact ⟨y₀, hy₀, hmap y₀, htype y₀, hkey y₀⟩
    · exact ⟨y, hy, rfl, rfl, rfl⟩
  have hids : ∀ x, (Tree.find (Tree.modify db.entries o f) x).map TunnelMapEntry.tunnel_map_id =
      (db.entryGet x).map TunnelMapEntry.tunnel_map_id := by
    intro x
    rw [hget]
    split
    · rw [Option.map_map]
      exact congrArg (fun g => Option.map g (db.entryGet x)) (funext hmap)
    · rfl
  exact {
    entries := by
      show ((Tree.modify db.entries o f).map Prod.fst).Nodup
      rw [Tree.keys_modify]
      exact h.entries
    tunnels := h.tunnels
    counts := fun m map hm => by
      show map.ref_count = (Tree.modify db.entries o f).countP _ + db.mapperUses m
      rw [Tree.countP_modify db.entries o (p := fun x => decide (x.tunnel_map_id = m)) fun x => by rw [hmap]]
      exact h.counts m map hm
    listed := fun m map hm x => by
      show map.tunnel_map_entry_list.count x = if (Tree.find (Tree.modify db.entries o f) x).map _ = some m then 1 else 0
      rw [hids]
      exact h.listed m map hm x
    typed := fun x y hy => by
      obtain ⟨y₀, hy₀, hid, ht, -⟩ := hold hy
      rw [hid, ht]
      exact h.typed x y₀ hy₀
    mappers := h.mappers
    keys := fun x x' y y' hy hy' hm hk => by
      obtain ⟨y₀, hy₀, hid, -, hkey₀⟩ := hold hy
      obtain ⟨y₀', hy₀', hid', -, hkey₀'⟩ := hold hy'
      refine h.keys x x' y₀ y₀' hy₀ hy₀' ?_ ?_
      · rw [← hid, ← hid', hm]
      · rw [← hkey₀, ← hkey₀', hk]
    bridges := hbridges
    named := fun x y hy => by
      change Tree.find (Tree.modify db.entries o f) x = some y at hy
      rw [hget] at hy
      split at hy
      next heq =>
        rw [heq, ho] at hy
        cases hy
        exact hnamed
      · exact hlive _ (h.named x y hy) }

theorem MapLinksInv.update (h : MapLinksInv others db)
    (ho : db.entryGet o = some e) {attr}
    (hattr : ∀ oid, attr = .bridgeIdValue oid → e.type = .vniToBridgeIf ∧ (db.bridges oid).isSome = true) :
    MapLinksInv others (mapEntryUpdate o e attr db) := by
  have hmem := Tree.mem_of_find ho
  cases attr with
  | bridgeIdValue oid =>
    obtain ⟨htype, hoid⟩ := hattr oid rfl
    have hbridge : ∀ v, ({ e with value := v } : TunnelMapEntry).bridge = v.bridge_oid := fun v => by
      show (if e.type = .bridgeIfToVni then _ else _) = _
      rw [htype]
      exact if_neg (by decide)
    have hlive : ∀ b, (db.bridges b).isSome = true →
        (((db.modBridge e.value.bridge_oid fun n => n - 1).modBridge oid fun n => n + 1).bridges b).isSome = true := by
      intro b hb
      show (if b = oid then (if b = e.value.bridge_oid then (db.bridges b).map _ else db.bridges b).map _
        else if b = e.value.bridge_oid then (db.bridges b).map _ else db.bridges b).isSome = true
      split
      · rw [Option.isSome_map]
        split
        · rw [Option.isSome_map]
          exact hb
        · exact hb
      split
      · rw [Option.isSome_map]
        exact hb
      · exact hb
    refine h.modEntry ho (f := fun e => { e with value := { e.value with bridge_oid := oid } })
      (fun _ => rfl) (fun _ => rfl) (fun _ => rfl) (fun b => ?_) hlive ?_
    · -- the old value counts no more, then the new one counts
      have hgone := Tree.countP_erase h.entries hmem fun x => decide (x.bridge = b)
      have hcame := Tree.countP_modify_key h.entries hmem
        (fun e => { e with value := { e.value with bridge_oid := oid } }) fun x => decide (x.bridge = b)
      have hswap : ∀ a : Oid, (if a = b then 1 else 0 : Nat) = if b = a then 1 else 0 :=
        fun a => if_congr eq_comm rfl rfl
      simp only [decide_eq_true_eq, hbridge, hswap] at hgone hcame
      have hless := bridges_uncounted hgone (h.bridges b)
      refine bridges_counted ?_ hless
      dsimp only
      omega
    · show ((db.modBridge e.value.bridge_oid fun n => n - 1).modBridge oid fun n => n + 1).bridges _ |>.isSome
      rw [hbridge]
      exact hlive oid hoid
  | vniIdValue u32 =>
    have hsame : ∀ b, ((Tree.modify db.entries o fun e => { e with value := { e.value with vnid := u32 } }).countP
        fun x => decide (x.2.bridge = b)) = db.entriesOn b := fun b =>
      Tree.countP_modify db.entries o (p := fun x => decide (x.bridge = b)) fun _ => rfl
    refine h.modEntry ho (f := fun e => { e with value := { e.value with vnid := u32 } }) (fun _ => rfl)
      (fun _ => rfl) (fun _ => rfl) (fun b => ?_) (fun _ hb => hb) (h.named o e ho)
    rw [hsame]
    exact h.bridges b
  | tunnelMapType _ | tunnelMap _ | bridgeIdKey _ | vniIdKey _ | unknown _ => exact h

theorem NpuEntriesExact.update (h : NpuEntriesExact db) {o} {attr} :
    NpuEntriesExact (mapEntryUpdate o e attr db) := by
  intro x
  have hsome : ∀ f, (Tree.find (Tree.modify db.entries o f) x).isSome = (db.entryGet x).isSome := by
    intro f
    rw [Tree.find_modify]
    split
    · rw [Option.isSome_map]
      rfl
    · rfl
  cases attr with
  | bridgeIdValue oid =>
    exact (h x).trans (hsome fun e => { e with value := { e.value with bridge_oid := oid } }).symm
  | vniIdValue u32 =>
    exact (h x).trans (hsome fun e => { e with value := { e.value with vnid := u32 } }).symm
  | tunnelMapType _ | tunnelMap _ | bridgeIdKey _ | vniIdKey _ | unknown _ => exact h x

/-! ## Tunnels come and go -/

theorem NpuEntriesExact.kept (h : NpuEntriesExact db) (hkept : EntriesKept db db') :
    NpuEntriesExact db' := by
  intro o
  rw [hkept.npu, entryGet, hkept.entries]
  exact h o

theorem MapLinksInv.recounted (h : MapLinksInv others db) (hkept : EntriesKept db db')
    (refs : Oid → TunnelMap → Nat) (hkeyed : Tree.Keyed db'.tunnels)
    (hmaps : ∀ m, (db'.maps m).map TunnelMap.core =
      (db.maps m).map fun k => { k.core with ref_count := refs m k })
    (hrefs : ∀ m k, db.maps m = some k → refs m k = db.entriesOf m + db'.mapperUses m)
    (hmappers : ∀ t tunnel, db'.tunnelObjGet t = some tunnel → ∀ m, tunnel.mapperCount m ≠ 0 →
      (db.maps m).isSome = true) : MapLinksInv others db' := by
  have hold : ∀ {m map}, db'.maps m = some map → ∃ k, db.maps m = some k ∧ map.type = k.type ∧
      map.ref_count = refs m k ∧ map.tunnel_map_entry_list = k.tunnel_map_entry_list := by
    intro m map hmap
    have hcore := hmaps m
    rw [hmap, Option.map_some] at hcore
    obtain ⟨k, hk, heq⟩ := Option.map_eq_some_iff.mp hcore.symm
    exact ⟨k, hk, (congrArg TunnelMap.type heq).symm, (congrArg TunnelMap.ref_count heq).symm,
      (congrArg TunnelMap.tunnel_map_entry_list heq).symm⟩
  have hlive : ∀ m, (db'.maps m).isSome = (db.maps m).isSome := by
    intro m
    have hsome := congrArg Option.isSome (hmaps m)
    rwa [Option.isSome_map, Option.isSome_map] at hsome
  have hget : ∀ o, db'.entryGet o = db.entryGet o := fun o => by rw [entryGet, entryGet, hkept.entries]
  exact {
    entries := by
      rw [hkept.entries]
      exact h.entries
    tunnels := hkeyed
    counts := fun m map hmap => by
      obtain ⟨k, hk, -, hcount, -⟩ := hold hmap
      rw [hcount, hrefs m k hk, TunnelDb.entriesOf, TunnelDb.entriesOf, hkept.entries]
    listed := fun m map hmap o => by
      obtain ⟨k, hk, -, -, hlist⟩ := hold hmap
      rw [hlist, hget]
      exact h.listed m k hk o
    typed := fun o e he => by
      rw [hget] at he
      obtain ⟨k, hk, htype⟩ := h.typed o e he
      have hsome := hlive e.tunnel_map_id
      rw [hk] at hsome
      obtain ⟨map, hmap⟩ := Option.isSome_iff_exists.mp hsome
      obtain ⟨k', hk', htype', -, -⟩ := hold hmap
      rw [hk] at hk'
      cases hk'
      exact ⟨map, hmap, htype'.trans htype⟩
    mappers := fun t tunnel ht m hne => by
      rw [hlive]
      exact hmappers t tunnel ht m hne
    keys := fun o o' e e' he he' => by
      rw [hget] at he he'
      exact h.keys o o' e e' he he'
    bridges := fun b => by
      rw [hkept.bridges, TunnelDb.entriesOn, hkept.entries]
      exact h.bridges b
    named := fun o e he => by
      rw [hget] at he
      rw [hkept.bridges]
      exact h.named o e he }

theorem MapLinksInv.addTunnel (h : MapLinksInv others db) (hkept : EntriesKept db db')
    (hnone : db.tunnelObjGet t = none) (htunnels : db'.tunnels = Tree.insert db.tunnels t tunnel)
    (hcounted : MapsCounted tunnel.mapperCount db db') : MapLinksInv others db' := by
  refine h.recounted hkept (fun m k => k.ref_count + tunnel.mapperCount m) ?_ hcounted.maps
    (fun m k hk => ?_) fun t' tunnel' ht' m hne => ?_
  · rw [htunnels]
    exact h.tunnels.insert _ hnone
  · rw [TunnelDb.mapperUses, htunnels, Tree.total_insert, h.counts m k hk]
    exact Nat.add_assoc ..
  · rw [tunnelObjGet, htunnels, Tree.find_insert hnone] at ht'
    split at ht'
    · cases ht'
      exact hcounted.live m hne
    · exact h.mappers t' _ ht' m hne

theorem MapLinksInv.dropTunnel (h : MapLinksInv others db) (hkept : EntriesKept db db')
    (ht : db.tunnelObjGet t = some tunnel) (htunnels : db'.tunnels = Tree.erase db.tunnels t)
    (hmaps : ∀ m, (db'.maps m).map TunnelMap.core =
      (db.maps m).map fun k => (k.subRefs (tunnel.mapperCount m)).core) : MapLinksInv others db' := by
  refine h.recounted hkept (fun m k => k.ref_count - tunnel.mapperCount m) ?_ hmaps
    (fun m k hk => ?_) fun t' tunnel' ht' m hne => ?_
  · rw [htunnels]
    exact h.tunnels.erase t
  · have huses : db.mapperUses m = Tree.total (Tree.erase db.tunnels t) (TunnelObj.mapperCount · m) +
        tunnel.mapperCount m :=
      Tree.total_erase h.tunnels (Tree.mem_of_find ht) fun tunnel => tunnel.mapperCount m
    have hcount := h.counts m k hk
    rw [TunnelDb.mapperUses, htunnels]
    omega
  · rw [tunnelObjGet, htunnels, Tree.find_erase] at ht'
    split at ht'
    · cases ht'
    · exact h.mappers t' tunnel' ht' m hne

theorem MapLinksInv.restoreTunnel (h : MapLinksInv others db) (hkept : EntriesKept db db')
    (hmaps : db'.maps = db.maps) (ht : db.tunnelObjGet t = some tunnel)
    (htunnels : db'.tunnels = Tree.insert (Tree.erase db.tunnels t) t tunnel) :
    MapLinksInv others db' ∧ LinksSame db db' := by
  have hnone : Tree.find (Tree.erase db.tunnels t) t = none := by
    rw [Tree.find_erase, if_pos rfl]
  have hget : ∀ t', db'.tunnelObjGet t' = db.tunnelObjGet t' := by
    intro t'
    rw [tunnelObjGet, htunnels, Tree.find_insert hnone, Tree.find_erase]
    split
    next heq => rw [heq, ht]
    · rfl
  refine ⟨h.recounted hkept (fun m k => k.ref_count) ?_ (fun m => by rw [hmaps]; rfl) (fun m k hk => ?_)
    fun t' tunnel' ht' => ?_, ⟨fun m => by rw [hmaps], hkept.entries, hkept.npu, hkept.bridges, fun t' => ?_⟩⟩
  · rw [htunnels]
    exact (h.tunnels.erase t).insert _ hnone
  · have huses : db.mapperUses m = Tree.total (Tree.erase db.tunnels t) (TunnelObj.mapperCount · m) +
        tunnel.mapperCount m :=
      Tree.total_erase h.tunnels (Tree.mem_of_find ht) fun tunnel => tunnel.mapperCount m
    rw [TunnelDb.mapperUses, htunnels, Tree.total_insert, ← huses]
    exact h.counts m k hk
  · rw [hget] at ht'
    exact h.mappers t' _ ht'
  · rw [hget]

theorem MapLinksInv.sameCounts (h : MapLinksInv others db) (hkept : EntriesKept db db')
    (htunnels : db'.tunnels = db.tunnels) (hcounted : MapsCounted (fun _ => 0) db db') :
    MapLinksInv others db' ∧ LinksSame db db' := by
  have hget : ∀ t, db'.tunnelObjGet t = db.tunnelObjGet t := fun t => by
    rw [tunnelObjGet, tunnelObjGet, htunnels]
  refine ⟨h.recounted hkept (fun m k => k.ref_count) ?_ hcounted.maps (fun m k hk => ?_)
    fun t tunnel ht => ?_, ⟨hcounted.maps, hkept.entries, hkept.npu, hkept.bridges, fun t => by rw [hget]⟩⟩
  · rw [htunnels]
    exact h.tunnels
  · rw [TunnelDb.mapperUses, htunnels]
    exact h.counts m k hk
  · rw [hget] at ht
    exact h.mappers t tunnel ht

end Updates

end OpxSai
