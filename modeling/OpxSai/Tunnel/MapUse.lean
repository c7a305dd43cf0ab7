import OpxSai.Bridge.TunnelPorts
import OpxSai.Tunnel.MapDeps
import OpxSai.Tunnel.MapLinkRuns

/-!
# Entries of maps in use

A bridge port of a tunnel needs the entries that map its bridge. An entry does not go while a tunnel of its
map is connected to its bridge, but for an entry on the way out that is not the only one.

A remove of a tunnel asks for its next hops and its termination entries, not for its bridge ports.
-/

namespace OpxSai

open TunnelDb
variable {db' : TunnelDb}

/-! ## Bridges, tunnels and maps -/

structure MapsHad where
  encap : Oid → Bool
  decap : Bool

namespace TunnelDb

def entryFor (db : TunnelDb) (is_encap : Bool) (map_id bridge_oid : Oid) : Bool :=
  db.entries.any fun x => decide (x.2.tunnel_map_id = map_id ∧
    (x.2.type = .bridgeIfToVni ↔ is_encap = true) ∧ x.2.bridge = bridge_oid)

def mapsHad (db : TunnelDb) (bridge_oid tunnel_id : Oid) : MapsHad where
  encap := fun m => (db.tunnelObjGet tunnel_id).any fun tunnel =>
    decide (m ∈ tunnel.mappers true) && db.entryFor true m bridge_oid
  decap := (db.tunnelObjGet tunnel_id).any fun tunnel =>
    (tunnel.mappers false).any fun m => db.entryFor false m bridge_oid

end TunnelDb

/-- The tunnels with their maps, the bridge ports, and what was there when a port was created. -/
structure MapUseSys where
  db : TunnelDb
  ports : BridgeDb
  had : Oid → Oid → MapsHad

inductive MapUseOp where
  | maps (op : MapLinkOp)
  | portCreate (env : BridgeEnv) (attr_list : List BridgePortAttr)
  | portRemove (env : BridgeEnv) (bridge_port_id : Oid)

def MapLinkOp.connectedBy (ports : BridgeDb) : MapLinkOp → MapLinkOp
  | .entryRemove env entry_id =>
    .entryRemove { env with connected := fun b t => isBridgeConnectedToTunnel b t ports } entry_id
  | .entrySet env entry_id attr =>
    .entrySet { env with connected := fun b t => isBridgeConnectedToTunnel b t ports } entry_id attr
  | op => op

def MapUseSys.connect (s : MapUseSys) (ports : BridgeDb) : MapUseSys where
  db := s.db
  ports := ports
  had := fun b t =>
    if isBridgeConnectedToTunnel b t ports = true ∧ isBridgeConnectedToTunnel b t s.ports = false then
      s.db.mapsHad b t
    else s.had b t

def mapUseStep (max_id : Nat) : MapUseOp → MapUseSys → MapUseSys
  | .maps op, s => { s with db := mapLinkStep max_id (op.connectedBy s.ports) s.db }
  | .portCreate env attr_list, s =>
    s.connect (bridgePortCreate { env with tunnel_created := fun o => (s.db.tunnelObjGet o).isSome } attr_list
      s.ports).2
  | .portRemove env bridge_port_id, s => s.connect (bridgePortRemove env bridge_port_id s.ports).2

/-- **The entries in use**: the tunnel of a bridge port is live, each of its maps on the way in that had an
entry for the bridge has one, and so has one on the way out, if one had. -/
def MapsInUse (s : MapUseSys) : Prop :=
  ∀ b t, isBridgeConnectedToTunnel b t s.ports = true → ∃ tunnel, s.db.tunnelObjGet t = some tunnel ∧
    (∀ m, (s.had b t).encap m = true → m ∈ tunnel.mappers true ∧ s.db.entryFor true m b = true) ∧
    ((s.had b t).decap = true → ∃ m ∈ tunnel.mappers false, s.db.entryFor false m b = true)

structure MapListsRead (env : TunnelMapEnv) : Prop where
  count : ∀ map, env.dep_tunnel_count (some map) = (.success, map.dep_tunnels.length)
  deps : ∀ map i, i < map.dep_tunnels.length →
    env.dep_tunnel_at (some map) i = (.success, map.dep_tunnels.getD i .null)
  bridges : ∀ entries b, env.decap_bridge_count entries b =
    (.success, entries.countP fun e => decide (e.value.bridge_oid = b))

/-- The outside looks lists up, and the NPU takes the remove of a tunnel. Maps neither come nor go. -/
def MapUseOutside : MapUseOp → Prop
  | .maps (.mapCreate ..) | .maps (.mapRemove _) => False
  | .maps (.entryRemove env _) | .maps (.entrySet env _ _) => MapListsRead env
  | .maps (.tunnelRemove env _) => ∀ log o, env.outside log (.tunnelObjRemove o) = .success
  | .maps op => MapOutsideFits op
  | .portCreate .. | .portRemove .. => True

/-- **When a step keeps the entries in use.** A tunnel that is removed has no bridge port. -/
def MapUseFits : MapUseOp → MapUseSys → Prop
  | .maps (.tunnelRemove _ tunnel_id), s => ∀ b, isBridgeConnectedToTunnel b tunnel_id s.ports = false
  | _, _ => True

/-! ## The test -/

section Test

variable {others : Oid → Option Nat} {db : TunnelDb}

theorem entryFor_iff {is_encap : Bool} {m b} (hkeyed : Tree.Keyed db.entries) :
    db.entryFor is_encap m b = true ↔ ∃ o e, db.entryGet o = some e ∧ e.tunnel_map_id = m ∧
      (e.type = .bridgeIfToVni ↔ is_encap = true) ∧ e.bridge = b := by
  simp only [entryFor, List.any_eq_true, decide_eq_true_eq]
  constructor
  · rintro ⟨x, hx, hfor⟩
    exact ⟨x.1, x.2, Tree.find_of_mem hkeyed hx, hfor⟩
  · rintro ⟨o, e, ho, hfor⟩
    exact ⟨(o, e), Tree.mem_of_find ho, hfor⟩

def TunnelMapEntry.Same (e e' : TunnelMapEntry) : Prop :=
  e'.tunnel_map_id = e.tunnel_map_id ∧ e'.type = e.type ∧ e'.bridge = e.bridge

/-- **An entry that is not in use** while its bridge is connected to a tunnel of its map is not the only one
on the way out. -/
theorem mapEntryInUse_other (h : MapLinksInv others db) {env} (hread : MapListsRead env)
    {o}
    {e} (ho : db.entryGet o = some e) (hfree : mapEntryInUse env e db = false) {t}
    (hdep : DependsOn t e.tunnel_map_id db) (hconn : env.connected e.bridge t = true) :
    e.type ≠ .bridgeIfToVni ∧ ∃ o' e', o' ≠ o ∧ db.entryGet o' = some e' ∧ e.Same e' := by
  obtain ⟨map, hmap, hmem⟩ := hdep
  obtain ⟨i, hi, hget⟩ := List.getElem_of_mem hmem
  -- the loop meets the tunnel
  have hloop : ∀ {alternative}, mapEntryConnected env (some map) map.dep_tunnels.length e.bridge alternative = false →
      alternative = true := by
    intro alternative hnone
    have hnone := List.any_eq_false.mp hnone i (List.mem_range.mpr hi)
    rw [hread.deps map i hi, List.getD_eq_getElem?_getD, List.getElem?_eq_getElem hi, hget] at hnone
    simpa [hconn] using hnone
  simp only [mapEntryInUse, hmap, hread.count, hread.bridges] at hfree
  rw [if_ok rfl] at hfree
  split at hfree
  next hencap =>
    have hbridge : e.key.bridge_oid = e.bridge := (if_pos hencap).symm
    rw [hbridge] at hfree
    cases hloop hfree
  rename_i hdecap
  have hbridge : e.value.bridge_oid = e.bridge := (if_neg hdecap).symm
  rw [if_ok rfl, hbridge] at hfree
  have hmany := of_decide_eq_true (hloop hfree)
  refine ⟨hdecap, ?_⟩
  by_contra hnone
  -- all that count in the list are the entry itself, which is there once
  have hlisted := h.listed _ map hmap o
  rw [ho, Option.map_some, if_pos rfl] at hlisted
  rw [mapEntries, hmap] at hmany
  refine absurd hmany (Nat.not_lt.mpr ?_)
  rw [← hlisted, List.count, List.countP_filterMap]
  refine List.countP_mono_left fun o' ho' hcounts => ?_
  obtain ⟨e', he', hvalue⟩ : ∃ e', db.entryGet o' = some e' ∧ e'.value.bridge_oid = e.bridge := by
    cases he' : db.entryGet o' with
    | none => simp [he'] at hcounts
    | some e' => exact ⟨e', rfl, by simpa [he'] using hcounts⟩
  have hplace := h.listed _ map hmap o'
  have hin : (db.entryGet o').map TunnelMapEntry.tunnel_map_id = some e.tunnel_map_id := by
    by_contra hout
    rw [if_neg hout] at hplace
    exact List.count_eq_zero.mp hplace ho'
  rw [he'] at hin
  have hid : e'.tunnel_map_id = e.tunnel_map_id := Option.some.inj hin
  have htype : e'.type = e.type := by
    obtain ⟨k, hk, htype⟩ := h.typed o e ho
    obtain ⟨k', hk', htype'⟩ := h.typed o' e' he'
    rw [hid, hk] at hk'
    rw [← htype', ← htype, Option.some.inj hk']
  by_contra hne
  refine hnone ⟨o', e', by simpa using hne, he', hid, htype, ?_⟩
  rw [TunnelMapEntry.bridge, htype, if_neg hdecap]
  exact hvalue

end Test

/-! ## The invariant -/

structure MapUseInv (others : Oid → Option Nat) (s : MapUseSys) : Prop where
  links : MapLinksInv others s.db
  free : IndexesFree s.db
  deps : ∀ t tunnel, s.db.tunnelObjGet t = some tunnel → MappersDepend t tunnel s.db
  used : MapsInUse s

section Steps

variable {others : Oid → Option Nat} {s : MapUseSys}

/-- **The entries change**, and those that a connected tunnel needs are there. -/
theorem MapUseInv.entries (h : MapUseInv others s) (hlinks : MapLinksInv others db')
    (htunnels : db'.tunnels = s.db.tunnels) (hbitmap : db'.tunnel_id_bitmap = s.db.tunnel_id_bitmap)
    (hdeps : DepsKept none s.db db')
    (hout : ∀ b t m is_encap, isBridgeConnectedToTunnel b t s.ports = true → DependsOn t m s.db →
      s.db.entryFor is_encap m b = true → db'.entryFor is_encap m b = true) :
    MapUseInv others { s with db := db' } := by
  have hget : ∀ t, db'.tunnelObjGet t = s.db.tunnelObjGet t := fun t => by rw [tunnelObjGet, htunnels]; rfl
  refine ⟨hlinks, fun i hi => ?_, fun t tunnel ht d m hm => ?_, fun b t hconn => ?_⟩
  · exact (hget _).trans (h.free i (hbitmap ▸ hi))
  · exact hdeps t m (by simp) (h.deps t _ ((hget t).symm.trans ht) d m hm)
  · obtain ⟨tunnel, ht, hencap, hdecap⟩ := h.used b t hconn
    have hdepend := h.deps t _ ht
    refine ⟨tunnel, (hget t).trans ht, fun m hm => ?_, fun hhad => ?_⟩
    · obtain ⟨hmem, hfor⟩ := hencap m hm
      exact ⟨hmem, hout b t m true hconn (hdepend true m hmem) hfor⟩
    · obtain ⟨m, hmem, hfor⟩ := hdecap hhad
      exact ⟨m, hmem, hout b t m false hconn (hdepend false m hmem) hfor⟩

theorem MapUseInv.same (h : MapUseInv others s) (hmaps : db'.maps = s.db.maps)
    (htunnels : db'.tunnels = s.db.tunnels) (hbitmap : db'.tunnel_id_bitmap = s.db.tunnel_id_bitmap)
    (hentries : db'.entries = s.db.entries) (hlinks : MapLinksInv others db') :
    MapUseInv others { s with db := db' } :=
  h.entries hlinks htunnels hbitmap (.of_maps hmaps) fun _ _ _ _ _ _ hfor => by rwa [entryFor, hentries]

theorem MapUseInv.entryCreate (h : MapUseInv others s) {env}
    {attr_list}
    (hout : MapOutsideFits (.entryCreate env attr_list)) {x}
    (hx : mapEntryCreate env attr_list s.db = some x) : MapUseInv others { s with db := x.2.2 } := by
  rcases mapEntryCreate_cases h.links hout hx with
    ⟨-, hsame | ⟨o, hsame, -⟩⟩ | ⟨-, hunused, e, k, hk, htype, hkey, hbridge, hsame⟩
  · exact h.same hsame.maps hsame.tunnels hsame.bitmap hsame.entries (h.links.same hsame)
  · have hmarked : MapLinksInv others { s.db with npu_entries := mark s.db.npu_entries o true } :=
      ⟨h.links.entries, h.links.tunnels, h.links.counts, h.links.listed, h.links.typed, h.links.mappers,
        h.links.keys, h.links.bridges, h.links.named⟩
    exact h.same hsame.maps hsame.tunnels hsame.bitmap hsame.entries (hmarked.same hsame)
  · refine h.entries ((h.links.addEntry hunused hk htype hkey hbridge).same hsame) hsame.tunnels hsame.bitmap
      (DepsKept.trans ?_ (.of_maps hsame.maps)) fun b t m d _ _ hfor => ?_
    · exact .modMap _ (f := fun m =>
        { m with tunnel_map_entry_list := m.tunnel_map_entry_list ++ [x.2.1], ref_count := m.ref_count + 1 })
        (fun _ _ _ hmem => hmem) s.db
    · obtain ⟨y, hy, hfor⟩ := List.any_eq_true.mp hfor
      rw [entryFor, hsame.entries]
      exact List.any_eq_true.mpr ⟨y, List.mem_append_left _ hy, hfor⟩

theorem MapUseInv.entryLeaves (h : MapUseInv others s) {env} (hread : MapListsRead env) {o}
    {e} (ho : s.db.entryGet o = some e)
    (hfree : mapEntryInUse { env with connected := fun b t => isBridgeConnectedToTunnel b t s.ports } e s.db = false)
    (hkeyed : Tree.Keyed db'.entries)
    (hothers : ∀ o' e', o' ≠ o → s.db.entryGet o' = some e' → db'.entryGet o' = some e') :
    ∀ b t m is_encap, isBridgeConnectedToTunnel b t s.ports = true → DependsOn t m s.db →
      s.db.entryFor is_encap m b = true → db'.entryFor is_encap m b = true := by
  intro b t m d hconn hdep hfor
  obtain ⟨o₁, e₁, ho₁, hid, htype, hbridge⟩ := (entryFor_iff h.links.entries).mp hfor
  refine (entryFor_iff hkeyed).mpr ?_
  by_cases heq : o₁ = o
  · subst heq
    obtain rfl := Option.some.inj (ho.symm.trans ho₁)
    obtain ⟨-, o', e', hne, ho', hid', htype', hbridge'⟩ :=
      @mapEntryInUse_other others s.db h.links { env with connected := fun b t => isBridgeConnectedToTunnel b t s.ports }
        ⟨hread.count, hread.deps, hread.bridges⟩ o₁ e ho hfree t (hid ▸ hdep) (hbridge ▸ hconn)
    exact ⟨o', e', hothers o' e' hne ho', hid'.trans hid, htype' ▸ htype, hbridge'.trans hbridge⟩
  · exact ⟨o₁, e₁, hothers o₁ e₁ heq ho₁, hid, htype, hbridge⟩

theorem MapUseInv.entryRemove (h : MapUseInv others s) {env} (hread : MapListsRead env) {o}
    {x} (hx : mapEntryRemove
      { env with connected := fun b t => isBridgeConnectedToTunnel b t s.ports } o s.db = some x) :
    MapUseInv others { s with db := x.2 } := by
  rcases mapEntryRemove_cases hx with ⟨-, hsame⟩ | ⟨-, e, ho, hfree, hsame⟩
  · exact h.same hsame.maps hsame.tunnels hsame.bitmap hsame.entries (h.links.same hsame)
  have hlinks := (h.links.dropEntry ho).same hsame
  refine h.entries hlinks hsame.tunnels hsame.bitmap (DepsKept.trans ?_ (.of_maps hsame.maps))
    (h.entryLeaves hread ho hfree hlinks.entries fun o' e' hne ho' => ?_)
  · exact .modMap _ (f := fun m =>
      { m with tunnel_map_entry_list := m.tunnel_map_entry_list.erase o, ref_count := m.ref_count - 1 })
      (fun _ _ _ hmem => hmem) s.db
  · rw [entryGet, hsame.entries]
    exact (Tree.find_erase _ o o').trans ((if_neg hne).trans ho')

theorem MapUseInv.entrySet (h : MapUseInv others s) {env} (hread : MapListsRead env) {o}
    {attr} : MapUseInv others { s with db := (mapEntrySet
      { env with connected := fun b t => isBridgeConnectedToTunnel b t s.ports } o attr s.db).2 } := by
  rcases mapEntrySet_cases with
    ⟨-, hsame⟩ | ⟨-, e, ho, hvalid, hsame⟩
  · exact h.same hsame.maps hsame.tunnels hsame.bitmap hsame.entries (h.links.same hsame)
  have hlinks := (h.links.update ho (mapEntrySet_bridge hvalid)).same hsame
  have hthere : (mapEntryUpdate o e attr s.db).maps = s.db.maps ∧
      (mapEntryUpdate o e attr s.db).tunnels = s.db.tunnels ∧
      (mapEntryUpdate o e attr s.db).tunnel_id_bitmap = s.db.tunnel_id_bitmap := by
    cases attr <;> exact ⟨rfl, rfl, rfl⟩
  obtain ⟨hmaps, htunnels, hbitmap⟩ := hthere
  refine h.entries hlinks (hsame.tunnels.trans htunnels) (hsame.bitmap.trans hbitmap)
    (.of_maps (hsame.maps.trans hmaps)) ?_
  -- the entry that is written is not in use, or is looked up for the same
  by_cases hvalue : ∃ oid, attr = .bridgeIdValue oid
  · obtain ⟨oid, rfl⟩ := hvalue
    simp only [mapEntrySetValidate] at hvalid
    split at hvalid
    · cases hvalid
    split at hvalid
    · cases hvalid
    split at hvalid
    · cases hvalid
    rename_i hfree
    refine h.entryLeaves hread ho (by simpa using hfree) hlinks.entries fun o' e' hne ho' => ?_
    rw [entryGet, hsame.entries]
    exact (Tree.find_modify _ o o' fun e => { e with value := { e.value with bridge_oid := oid } }).trans
      ((if_neg hne).trans ho')
  · intro b t m d _ _ hfor
    obtain ⟨o₁, e₁, ho₁, hid, htype, hbridge⟩ := (entryFor_iff h.links.entries).mp hfor
    refine (entryFor_iff hlinks.entries).mpr ?_
    suffices hfound : ∃ e', Tree.find (mapEntryUpdate o e attr s.db).entries o₁ = some e' ∧ e₁.Same e' by
      obtain ⟨e', he', hid', htype', hbridge'⟩ := hfound
      rw [← hsame.entries] at he'
      exact ⟨o₁, e', he', hid'.trans hid, htype' ▸ htype, hbridge'.trans hbridge⟩
    cases attr with
    | bridgeIdValue oid => exact absurd ⟨oid, rfl⟩ hvalue
    | vniIdValue u32 =>
      have hfind := Tree.find_modify s.db.entries o o₁ fun e => { e with value := { e.value with vnid := u32 } }
      split at hfind
      · exact ⟨_, hfind.trans (congrArg (Option.map _) ho₁), rfl, rfl, rfl⟩
      · exact ⟨e₁, hfind.trans ho₁, rfl, rfl, rfl⟩
    | _ => exact ⟨e₁, ho₁, rfl, rfl, rfl⟩

theorem MapUseInv.tunnels (h : MapUseInv others s) (hlinks : MapLinksInv others db')
    (hfree : IndexesFree db') (hentries : db'.entries = s.db.entries)
    (hdeps : ∀ t tunnel, db'.tunnelObjGet t = some tunnel → MappersDepend t tunnel db')
    (hstay : ∀ b t, isBridgeConnectedToTunnel b t s.ports = true → ∀ tunnel, s.db.tunnelObjGet t = some tunnel →
      db'.tunnelObjGet t = some tunnel) : MapUseInv others { s with db := db' } := by
  refine ⟨hlinks, hfree, hdeps, fun b t hconn => ?_⟩
  have hfor : ∀ d m, db'.entryFor d m b = s.db.entryFor d m b := fun d m => by rw [entryFor, hentries]; rfl
  obtain ⟨tunnel, ht, hencap, hdecap⟩ := h.used b t hconn
  refine ⟨tunnel, hstay b t hconn tunnel ht, fun m hm => ?_, fun hhad => ?_⟩
  · obtain ⟨hmem, hthere⟩ := hencap m hm
    exact ⟨hmem, (hfor true m).trans hthere⟩
  · obtain ⟨m, hmem, hthere⟩ := hdecap hhad
    exact ⟨m, hmem, (hfor false m).trans hthere⟩

theorem MapUseInv.tunnelCreate (h : MapUseInv others s) {max_id : Nat} {env}
    {attr_list}
    (hout : MapOutsideFits (.tunnelCreate env attr_list)) :
    MapUseInv others { s with db := (tunnelCreate max_id env attr_list s.db).2.2 } := by
  cases hdup : env.tunnel_duplicate attr_list with
  | some dup_index =>
    rw [tunnelCreate_refused _ hdup]
    exact h
  | none =>
    have hlinks := (tunnelCreate_keeps h.links max_id hout).inv
    obtain ⟨hkept, hnew, hfree⟩ := tunnelCreate_deps h.free
    obtain ⟨hentries, hmade⟩ := @tunnelCreate_links env s.db max_id attr_list (hout hdup)
    generalize OpxSai.tunnelCreate _ _ _ _ = x at hlinks hkept hnew hfree hentries hmade
    have hlive : ∀ {t tunnel}, s.db.tunnelObjGet t = some tunnel → MappersDepend t tunnel x.2.2 :=
      fun ht d m hm => hkept _ m (Option.isSome_iff_exists.mpr ⟨_, ht⟩) (h.deps _ _ ht d m hm)
    rcases hmade with ⟨-, htunnels, -⟩ | ⟨hok, tunnel, hnone, htunnels, -⟩
    · have hget : ∀ t, x.2.2.tunnelObjGet t = s.db.tunnelObjGet t := fun t => by rw [tunnelObjGet, htunnels]; rfl
      exact h.tunnels hlinks hfree hentries.entries (fun t tunnel ht => hlive ((hget t).symm.trans ht))
        fun _ t _ tunnel ht => (hget t).trans ht
    have hget : ∀ t, x.2.2.tunnelObjGet t = if t = x.2.1 then some tunnel else s.db.tunnelObjGet t := fun t => by
      rw [tunnelObjGet, htunnels]
      exact Tree.find_insert hnone _ t
    refine h.tunnels hlinks hfree hentries.entries (fun t tunnel' ht => ?_) fun _ t _ tunnel' ht => ?_
    · by_cases heq : t = x.2.1
      · subst heq
        exact hnew hok tunnel' ht
      · exact hlive (((hget t).trans (if_neg heq)).symm.trans ht)
    · refine (hget t).trans ((if_neg ?_).trans ht)
      rintro rfl
      cases hnone.symm.trans ht

theorem MapUseInv.tunnelRemove (h : MapUseInv others s) {env} {o}
    (hnpu : ∀ log o, env.outside log (.tunnelObjRemove o) = .success)
    (hfits : ∀ b, isBridgeConnectedToTunnel b o s.ports = false) :
    MapUseInv others { s with db := (tunnelRemove env o s.db).2 } := by
  have hkeeps := @tunnelRemove_keeps others s.db h.links env o fun log id hrefused => absurd (hnpu log id) hrefused
  obtain ⟨hkept, hfree, hsame | ⟨htunnels, hentries⟩⟩ := tunnelRemove_deps h.free fun log => hnpu log o
  · rw [hsame]
    exact h
  have hget : ∀ t, (OpxSai.tunnelRemove env o s.db).2.tunnelObjGet t = if t = o then none else s.db.tunnelObjGet t :=
    fun t => by
      rw [tunnelObjGet, htunnels]
      exact Tree.find_erase _ o t
  refine h.tunnels hkeeps.inv hfree hentries (fun t tunnel ht => ?_) fun b t hconn tunnel ht => ?_
  · rw [hget] at ht
    split at ht
    · cases ht
    next hne =>
      exact fun d m hm => hkept t m (fun heq => hne (Option.some.inj heq).symm) (h.deps t _ ht d m hm)
  · refine (hget t).trans ((if_neg ?_).trans ht)
    rintro rfl
    rw [hfits b] at hconn
    cases hconn

/-- **The bridge ports change**, and pairs that are connected now have live tunnels. -/
theorem MapUseInv.connect (h : MapUseInv others s) {ports}
    (hports : Connects (fun _ t => (s.db.tunnelObjGet t).isSome = true) s.ports ports) :
    MapUseInv others (s.connect ports) := by
  refine ⟨h.links, h.free, h.deps, fun b t hconn => ?_⟩
  dsimp only [MapUseSys.connect] at hconn ⊢
  by_cases hnew : isBridgeConnectedToTunnel b t ports = true ∧ isBridgeConnectedToTunnel b t s.ports = false
  · rw [if_pos hnew]
    have hlive := (hports b t hconn).resolve_left (by rw [hnew.2]; nofun)
    obtain ⟨tunnel, ht⟩ := Option.isSome_iff_exists.mp hlive
    refine ⟨tunnel, ht, fun m hm => ?_, fun hhad => ?_⟩
    · simpa [mapsHad, ht] using hm
    · simpa [mapsHad, ht] using hhad
  rw [if_neg hnew]
  refine h.used b t ?_
  by_contra hbefore
  exact hnew ⟨hconn, by simpa using hbefore⟩

theorem mapUseStep_inv (max_id : Nat) (op : MapUseOp) (h : MapUseInv others s) (hout : MapUseOutside op)
    (hfits : MapUseFits op s) : MapUseInv others (mapUseStep max_id op s) := by
  cases op with
  | portCreate env attr_list => exact h.connect (bridgePortCreate_connects _)
  | portRemove env bridge_port_id =>
    exact h.connect fun b t hconn => (bridgePortRemove_connects b t hconn).elim .inl nofun
  | maps op =>
    cases op with
    | mapCreate _ _ _ | mapRemove _ => exact hout.elim
    | entryCreate env attr_list =>
      show MapUseInv others { s with db := (mapEntryCreate env attr_list s.db).elim s.db fun x => x.2.2 }
      cases hx : mapEntryCreate env attr_list s.db with
      | none => exact h
      | some x => exact h.entryCreate hout hx
    | entryRemove env o =>
      show MapUseInv others { s with db := ((mapEntryRemove _ o s.db).map _).elim s.db _ }
      cases hx : mapEntryRemove { env with connected := fun b t => isBridgeConnectedToTunnel b t s.ports } o s.db with
      | none => exact h
      | some x => exact h.entryRemove hout hx
    | entrySet env o attr => exact h.entrySet hout
    | tunnelCreate env attr_list => exact h.tunnelCreate hout
    | tunnelRemove env o => exact h.tunnelRemove hout hfits

end Steps

/-! ## Runs -/

/-- **The entries in use are not lost**, in every run that removes no tunnel under a bridge port. -/
theorem mapsInUse_of_run (max_id : Nat) (fib : Fib) (bridges : Oid → Option Nat) (maps : Oid → Option TunnelMap)
    (hmaps : ∀ m map, maps m = some map → ∃ type, map = ⟨type, 0, [], []⟩) (ports : BridgeDb)
    (hports : ports.bridge_ports = []) (had : Oid → Oid → MapsHad) {s : MapUseSys}
    (hrun : Run (mapUseStep max_id) (fun op s => MapUseOutside op ∧ MapUseFits op s)
      ⟨{ TunnelDb.initial fib bridges with maps := maps }, ports, had⟩ s) : MapsInUse s := by
  refine (hrun.induct (P := MapUseInv bridges) (fun op _ h hok => mapUseStep_inv max_id op h hok.1 hok.2) ?_).used
  have hempty := MapLinksInv.initial fib bridges
  exact {
    links := {
      entries := hempty.entries
      tunnels := hempty.tunnels
      counts := fun m map hmap => by
        obtain ⟨type, rfl⟩ := hmaps m map hmap
        rfl
      listed := fun m map hmap o => by
        obtain ⟨type, rfl⟩ := hmaps m map hmap
        rfl
      typed := fun _ _ he => nomatch he
      mappers := fun _ _ ht => nomatch ht
      keys := fun _ _ _ _ he => nomatch he
      bridges := hempty.bridges
      named := fun _ _ he => nomatch he }
    free := fun _ _ => rfl
    deps := fun _ _ ht => nomatch ht
    used := fun b t hconn => by
      obtain ⟨p, hp, -⟩ := isBridgeConnectedToTunnel_iff.mp hconn
      dsimp only at hp
      rw [hports] at hp
      cases hp }

def encapMap (o : Oid) : Option TunnelMap :=
  if o = uoidCreate .tunnelMap 0 then some ⟨.bridgeIfToVni, 0, [], []⟩ else none

def oneBridge1D : BridgeDb where
  default_bridge_id := .null
  bridges := fun b => if b = ⟨.bridge, 1⟩ then some ⟨.bridge1D, 0, false⟩ else none
  bridge_ports := []
  books := ⟨fun _ => 0, fun _ => 0, fun _ => .null, fun _ _ => false, fun _ _ => none, fun _ _ => false⟩
  outside_log := []

def tunnelPortOps : List MapUseOp :=
  [.maps (.entryCreate .good [.tunnelMapType .bridgeIfToVni, .tunnelMap (uoidCreate .tunnelMap 0),
      .bridgeIdKey ⟨.bridge, 1⟩, .vniIdValue 5]),
    .maps (.tunnelCreate .good [.type .ipinip, .underlayInterface ⟨.routerInterface, 1⟩,
      .encapMappers (some [uoidCreate .tunnelMap 0])]),
    .portCreate (.good ⟨.bridge, 2⟩ ⟨.bridgePort, 1⟩) [.type .tunnel, .bridgeId ⟨.bridge, 1⟩, .tunnelId (tunnelId 1)]]

def tunnelPortStart (maps : Oid → Option TunnelMap) : MapUseSys where
  db := { TunnelDb.initial (oneRif .port ⟨.port, 1⟩) oneBridge with maps := maps }
  ports := oneBridge1D
  had := fun _ _ => ⟨fun _ => false, false⟩

def tunnelPortSys : MapUseSys := tunnelPortOps.foldl (fun s op => mapUseStep 4 op s) (tunnelPortStart encapMap)

theorem mapsInUse_of_run_port : MapsInUse tunnelPortSys := by
  refine mapsInUse_of_run 4 (oneRif .port ⟨.port, 1⟩) oneBridge encapMap (fun m map hmap => ?_) oneBridge1D rfl
    (fun _ _ => ⟨fun _ => false, false⟩) ?_
  · change (if m = _ then some _ else none) = some map at hmap
    split at hmap
    · exact ⟨.bridgeIfToVni, (Option.some.inj hmap).symm⟩
    · cases hmap
  · have hentry : Run (mapUseStep 4) (fun op s => MapUseOutside op ∧ MapUseFits op s)
        (tunnelPortStart encapMap) _ :=
      .one (.maps (.entryCreate .good [.tunnelMapType .bridgeIfToVni, .tunnelMap (uoidCreate .tunnelMap 0),
        .bridgeIdKey ⟨.bridge, 1⟩, .vniIdValue 5])) (by
        refine ⟨⟨fun entries b => ?_, fun entries vnid => ?_⟩, trivial⟩
        · simp [TunnelMapEnv.good]
        · simp [TunnelMapEnv.good])
    have htunnel := hentry.snoc (.maps (.tunnelCreate .good [.type .ipinip, .underlayInterface ⟨.routerInterface, 1⟩,
      .encapMappers (some [uoidCreate .tunnelMap 0])])) (by exact ⟨fun _ d => by cases d <;> decide, trivial⟩)
    exact htunnel.snoc (.portCreate (.good ⟨.bridge, 2⟩ ⟨.bridgePort, 1⟩)
      [.type .tunnel, .bridgeId ⟨.bridge, 1⟩, .tunnelId (tunnelId 1)]) (by exact ⟨trivial, trivial⟩)

/-- The tunnel is removed under its bridge port. -/
theorem not_mapsInUse : ¬ ∀ (max_id : Nat) (fib : Fib) (bridges : Oid → Option Nat)
    (maps : Oid → Option TunnelMap),
    (∀ m map, maps m = some map → ∃ type, map = ⟨type, 0, [], []⟩) → ∀ ports : BridgeDb, ports.bridge_ports = [] →
      ∀ (had : Oid → Oid → MapsHad) (s : MapUseSys), Run (mapUseStep max_id) (fun op _ => MapUseOutside op)
        ⟨{ TunnelDb.initial fib bridges with maps := maps }, ports, had⟩ s → MapsInUse s := by
  intro h
  have htunnel : Run (mapUseStep 4) (fun op _ => MapUseOutside op) (tunnelPortStart fun _ => none) _ :=
    .one (.maps (.tunnelCreate .good [.type .ipinip, .underlayInterface ⟨.routerInterface, 1⟩]))
      (by exact fun _ d => by cases d <;> decide)
  have hport := htunnel.snoc (.portCreate (.good ⟨.bridge, 2⟩ ⟨.bridgePort, 1⟩)
    [.type .tunnel, .bridgeId ⟨.bridge, 1⟩, .tunnelId (tunnelId 1)]) (by trivial)
  have hgone := hport.snoc (.maps (.tunnelRemove .good (tunnelId 1))) (by exact fun _ _ => rfl)
  obtain ⟨tunnel, ht, -⟩ := h 4 _ _ (fun _ => none) nofun oneBridge1D rfl _ _ hgone ⟨.bridge, 1⟩ (tunnelId 1)
    (by decide)
  exact absurd (Option.isSome_iff_exists.mpr ⟨tunnel, ht⟩) (by decide)

end OpxSai
