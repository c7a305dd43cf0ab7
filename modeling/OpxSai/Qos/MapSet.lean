import OpxSai.Lib.Overlay
import OpxSai.Qos.Map

/-!
# A set on a map

A set writes the entries of a list one by one to the table that the node has. An entry that is not
valid ends the loop, and what was written before it stays; so it is when the NPU does not take the
table. An entry for a multicast queue is changed in the list of the caller.

* `MapSetAtomic` — the property: all of the list or nothing of it, and the list is left;
* `mapSetAtomic_iff` — the property holds exactly under the condition.
-/

variable (lim : MapLimits) (update : EntryUpdate) (qosmap : List MapEntry)

namespace OpxSai

open MapDb

/-! ## Property -/

def storedList (db : MapDb) (map_id : Oid) : Option (List MapEntry) :=
  (db.maps map_id).bind fun node => node.map_to_value.map MapTable.list

/-- A cell has what the last entry for it puts there, and the other cells are left. -/
def LaidOver (update : EntryUpdate) (qosmap old new : List MapEntry) : Prop :=
  ∀ i : Nat, new[i]? = (old[i]?).map fun cell =>
    (lastFor update.index i qosmap).elim cell fun e => update.put e cell

structure MapEnv.Takes (env : MapEnv) (map_type : QosMapType) (qosmap : List MapEntry) : Prop where
  attribute_table : env.attribute_table = true
  validate : env.validate .set [.mapToValueList qosmap] = .success
  supported : env.is_map_supported map_type = true
  set : ∀ log map_id map_type table,
    env.outside log (.mapAttrSet map_id map_type table) = .success

/-- A set of a list on a map is for the whole list or for nothing of it, and can be repeated. -/
structure MapSetAtomic (lim : MapLimits) (env : MapEnv) (map_id : Oid) (map_type : QosMapType)
    (old qosmap : List MapEntry) (db : MapDb) : Prop where
  success : (mapAttributeSet lim env map_id (.mapToValueList qosmap) db).rc = .success →
    ∃ new, storedList (mapAttributeSet lim env map_id (.mapToValueList qosmap) db).db map_id =
      some new ∧ LaidOver (listUpdateOf lim map_type) qosmap old new
  failed : (mapAttributeSet lim env map_id (.mapToValueList qosmap) db).rc ≠ .success →
    storedList (mapAttributeSet lim env map_id (.mapToValueList qosmap) db).db map_id = some old
  caller : (mapAttributeSet lim env map_id (.mapToValueList qosmap) db).attr =
    .mapToValueList qosmap
  again : ∀ env', env'.Takes map_type qosmap →
    let set := mapAttributeSet lim env map_id (.mapToValueList qosmap) db
    set.rc = .success →
    (mapAttributeSet lim env' map_id set.attr set.db).rc = .success ∧
    storedList (mapAttributeSet lim env' map_id set.attr set.db).db map_id =
      storedList set.db map_id

/-- The entries before the first one that is not valid. -/
def EntryUpdate.valid (update : EntryUpdate) (qosmap : List MapEntry) : List MapEntry :=
  qosmap.takeWhile fun e => update.check e = .success

/-- **The loop over a list.** The entries before the first one that is not valid are in the table and
are left as the type leaves them; the others are not looked at. -/
theorem mapListUpdate_eq : ∀ table : MapTable,
    ((mapListUpdate update qosmap table).rc = .success ↔ update.valid qosmap = qosmap) ∧
    (mapListUpdate update qosmap table).table.list =
      overlay update.index update.put table.list (update.valid qosmap) ∧
    (mapListUpdate update qosmap table).qosmap =
      (update.valid qosmap).map update.taken ++
        qosmap.dropWhile fun e => update.check e = .success := by
  induction qosmap with
  | nil => exact fun table => ⟨iff_of_true rfl rfl, rfl, rfl⟩
  | cons e rest ih =>
    intro table
    simp only [mapListUpdate, EntryUpdate.valid]
    by_cases he : update.check e = .success
    · rw [if_ok he, List.takeWhile_cons_of_pos (by simpa using he),
        List.dropWhile_cons_of_pos (by simpa using he)]
      obtain ⟨hrc, htable, hlist⟩ := ih (table.write (update.index e) (update.put e))
      refine ⟨?_, ?_, ?_⟩
      · rw [List.cons_inj_right]
        exact hrc
      · rw [overlay_cons]
        exact htable
      · rw [List.map_cons, List.cons_append, List.cons_inj_right]
        exact hlist
    · rw [if_pos he, List.takeWhile_cons_of_neg (by simpa using he),
        List.dropWhile_cons_of_neg (by simpa using he)]
      exact ⟨iff_of_false he (by simp), rfl, rfl⟩

theorem mapListUpdate_qosmap (table : MapTable) : (mapListUpdate update qosmap table).qosmap = qosmap ↔
      ∀ e ∈ update.valid qosmap, update.taken e = e := by
  rw [(mapListUpdate_eq _ _ _).2.2]
  have hsplit : update.valid qosmap ++ (qosmap.dropWhile fun e => update.check e = .success) =
      qosmap := List.takeWhile_append_dropWhile
  constructor
  · intro h
    have happ := h.trans hsplit.symm
    have hmap : (update.valid qosmap).map update.taken = (update.valid qosmap).map id := by
      rw [List.map_id]
      exact List.append_cancel_right happ
    exact fun e he => List.map_inj_left.mp hmap e he
  · intro h
    have hmap : (update.valid qosmap).map update.taken = update.valid qosmap := by
      rw [List.map_congr_left h]
      exact List.map_id _
    rw [hmap, hsplit]

theorem listUpdateOf_covers (map_type : QosMapType) : Covers (listUpdateOf lim map_type).put := by
  intro e e' cell
  cases map_type <;> rfl

/-! ## The set -/

section Set

variable (lim : MapLimits) (env : MapEnv) (qosmap : List MapEntry) (node : QosMap)
  {map_id : Oid} {table : MapTable} {db : MapDb}

/-- The list of a set is looked at. -/
structure MapSetReached (env : MapEnv) (map_type : QosMapType) (qosmap : List MapEntry) : Prop where
  attribute_table : env.attribute_table = true
  validate : env.validate .set [.mapToValueList qosmap] = .success
  supported : env.is_map_supported map_type = true

theorem mapParse_stopped (h : ¬ MapSetReached env node.map_type qosmap) :
    let parsed := mapParseUpdateAttributes lim env .set [.mapToValueList qosmap] node
    parsed.rc ≠ .success ∧ parsed.node = node ∧ parsed.attr_list = [.mapToValueList qosmap] := by
  intro parsed
  have hparsed : mapParseUpdateAttributes lim env .set [.mapToValueList qosmap] node = parsed := rfl
  clear_value parsed
  simp only [mapParseUpdateAttributes] at hparsed
  split at hparsed
  · subst hparsed
    exact ⟨by simp, rfl, rfl⟩
  rename_i htable
  split at hparsed
  next hvalidate =>
    subst hparsed
    exact ⟨hvalidate, rfl, rfl⟩
  rename_i hvalidate
  have hsupported : env.is_map_supported node.map_type = false := by
    cases hs : env.is_map_supported node.map_type with
    | false => rfl
    | true => exact absurd ⟨by simpa using htable, not_not.mp hvalidate, hs⟩ h
  have hset : mapsAttrSet lim env .set (.mapToValueList qosmap) node =
      ⟨.notSupported, node, .mapToValueList qosmap⟩ := if_pos hsupported
  have hothers : parsed = parseOthers lim env .set 0 [.mapToValueList qosmap] node := hparsed.symm
  simp only [parseOthers, hset] at hothers
  subst hothers
  exact ⟨by simp [getIndexedRetVal], rfl, rfl⟩

theorem mapValueSet_of_table {op_type : MapOp} (hop : op_type ≠ .create)
    (htable : node.map_to_value = some table) :
    mapValueSet lim env op_type qosmap node =
      ⟨(mapListUpdate (listUpdateOf lim node.map_type) qosmap table).rc,
       { node with
          map_to_value := some (mapListUpdate (listUpdateOf lim node.map_type) qosmap table).table },
       .mapToValueList (mapListUpdate (listUpdateOf lim node.map_type) qosmap table).qosmap⟩ := by
  have hstart : ¬ (op_type = .create ∨ (op_type = .set ∧ node.map_to_value = none)) := by
    simp [hop, htable]
  simp only [mapValueSet]
  rw [if_neg hstart, if_ok rfl]
  simp only [htable]

theorem mapParse_reached (h : MapSetReached env node.map_type qosmap)
    (htable : node.map_to_value = some table) :
    let parsed := mapParseUpdateAttributes lim env .set [.mapToValueList qosmap] node
    let updated := mapListUpdate (listUpdateOf lim node.map_type) qosmap table
    (parsed.rc = .success ↔ updated.rc = .success) ∧
    parsed.node = { node with map_to_value := some updated.table } ∧
    parsed.attr_list = [.mapToValueList updated.qosmap] := by
  intro parsed updated
  have hset : mapsAttrSet lim env .set (.mapToValueList qosmap) node =
      ⟨updated.rc, { node with map_to_value := some updated.table },
        .mapToValueList updated.qosmap⟩ := by
    simp only [mapsAttrSet, mapListAttrSet, h.supported]
    exact mapValueSet_of_table lim env _ _ MapOp.noConfusion htable
  have hparsed : parsed = parseOthers lim env .set 0 [.mapToValueList qosmap] node := by
    show mapParseUpdateAttributes lim env .set [.mapToValueList qosmap] node = _
    simp only [mapParseUpdateAttributes, h.attribute_table, h.validate]
    rfl
  rw [hparsed]
  simp only [parseOthers, hset]
  split
  next hfail => exact ⟨iff_of_false (getIndexedRetVal_ne_success hfail) hfail, rfl, rfl⟩
  next hok => exact ⟨iff_of_true rfl (not_not.mp hok), rfl, rfl⟩

theorem storedList_of_node {db : MapDb} (hnode : db.maps map_id = some node)
    (htable : node.map_to_value = some table) : storedList db map_id = some table.list := by
  simp [storedList, hnode, htable]

theorem mapAttributeSet_stopped (htype : map_id.type = .qosMap) (hnode : db.maps map_id = some node)
    (htable : node.map_to_value = some table) (h : ¬ MapSetReached env node.map_type qosmap) :
    let set := mapAttributeSet lim env map_id (.mapToValueList qosmap) db
    set.rc ≠ .success ∧ set.attr = .mapToValueList qosmap ∧ set.db.maps map_id = some node := by
  obtain ⟨hrc, hsame, hattr⟩ := mapParse_stopped lim env qosmap { node with ports := [] } h
  simp only [mapAttributeSet, hnode, if_ok htype, if_pos hrc]
  refine ⟨hrc, ?_, ?_⟩
  · simp only [MapParsed.attr, hattr]
    rfl
  · rw [hsame, if_pos (by simp [htable]), setMap_maps, if_pos rfl]

def NpuTakes (lim : MapLimits) (env : MapEnv) (map_id : Oid) (node : QosMap) (table : MapTable)
    (qosmap : List MapEntry) (db : MapDb) : Prop :=
  env.outside db.outside_log (.mapAttrSet map_id node.map_type
    (some (mapListUpdate (listUpdateOf lim node.map_type) qosmap table).table)) = .success

/-- **A set whose list is looked at** leaves the entries before the first one that is not valid in the
table, whatever its status is. -/
theorem mapAttributeSet_reached (htype : map_id.type = .qosMap) (hnode : db.maps map_id = some node)
    (htable : node.map_to_value = some table) (h : MapSetReached env node.map_type qosmap) :
    let set := mapAttributeSet lim env map_id (.mapToValueList qosmap) db
    let updated := mapListUpdate (listUpdateOf lim node.map_type) qosmap table
    (set.rc = .success ↔ updated.rc = .success ∧ NpuTakes lim env map_id node table qosmap db) ∧
    set.attr = .mapToValueList updated.qosmap ∧
    set.db.maps map_id = some { node with map_to_value := some updated.table } := by
  intro set updated
  obtain ⟨hrc, hparsed, hattr⟩ :=
    mapParse_reached lim env qosmap { node with ports := [] } h htable
  have hset : mapAttributeSet lim env map_id (.mapToValueList qosmap) db = set := rfl
  clear_value set
  simp only [mapAttributeSet, hnode, if_ok htype] at hset
  have hattr' : (mapParseUpdateAttributes lim env .set [.mapToValueList qosmap]
      { node with ports := [] }).attr (.mapToValueList qosmap) =
        .mapToValueList updated.qosmap := by
    simp only [MapParsed.attr, hattr]
    rfl
  have hsome : node.map_to_value.isSome = true := by
    rw [htable]
    rfl
  rw [hattr', hparsed, if_pos hsome] at hset
  split at hset
  next hfail =>
    subst hset
    refine ⟨iff_of_false hfail fun hok => hfail (hrc.mpr hok.1), rfl, ?_⟩
    rw [setMap_maps, if_pos rfl]
  rename_i hok
  have hupdated : updated.rc = .success := hrc.mp (not_not.mp hok)
  split at hset
  next hfail =>
    subst hset
    refine ⟨iff_of_false hfail fun hok => hfail hok.2, rfl, ?_⟩
    rw [call_maps, setMap_maps, if_pos rfl]
  rename_i htakes
  have hrcs : updated.rc = .success ∧ NpuTakes lim env map_id node table qosmap db :=
    ⟨hupdated, not_not.mp htakes⟩
  split at hset
  · subst hset
    refine ⟨iff_of_true rfl hrcs, rfl, ?_⟩
    rw [setMap_maps, if_pos rfl]
  subst hset
  refine ⟨iff_of_true rfl hrcs, rfl, ?_⟩
  rw [mapPortListUpdate_maps, setMap_maps, if_pos rfl]

end Set

/-! ## Condition -/

/-- The list is not looked at; or no entry that is taken is for a multicast queue, and the list is
valid and the NPU takes it, or the entries that are taken say what the table says. -/
def MapSetKeeps (lim : MapLimits) (env : MapEnv) (map_id : Oid) (node : QosMap) (table : MapTable)
    (qosmap : List MapEntry) (db : MapDb) : Prop :=
  let update := listUpdateOf lim node.map_type
  MapSetReached env node.map_type qosmap →
    (∀ e ∈ update.valid qosmap, update.taken e = e) ∧
    ((update.valid qosmap = qosmap ∧ NpuTakes lim env map_id node table qosmap db) ∨
      overlay update.index update.put table.list (update.valid qosmap) = table.list)

/-- **A set is atomic and can be repeated** exactly when it keeps the list and has nothing to take
back. -/
theorem mapSetAtomic_iff (env : MapEnv) (map_id : Oid) (node : QosMap)
    (table : MapTable) (qosmap : List MapEntry) (db : MapDb) (htype : map_id.type = .qosMap)
    (hnode : db.maps map_id = some node) (htable : node.map_to_value = some table) :
    MapSetAtomic lim env map_id node.map_type table.list qosmap db ↔
      MapSetKeeps lim env map_id node table qosmap db := by
  have hstored := storedList_of_node _ hnode htable
  by_cases hreach : MapSetReached env node.map_type qosmap
  · obtain ⟨hrc, hattr, hnode'⟩ :=
      mapAttributeSet_reached lim env _ _ htype hnode htable hreach
    obtain ⟨hvalid, hlist, -⟩ :=
      mapListUpdate_eq _ _ _
    have hqosmap := mapListUpdate_qosmap (listUpdateOf lim node.map_type) qosmap table
    have hcovers := listUpdateOf_covers lim node.map_type
    have hstored' := storedList_of_node _ hnode' rfl
    rw [hlist] at hstored'
    constructor
    · intro hatomic _
      have hcaller := hattr.symm.trans hatomic.caller
      refine ⟨hqosmap.mp (MapAttr.mapToValueList.inj hcaller), ?_⟩
      by_cases hok : (mapAttributeSet lim env map_id (.mapToValueList qosmap) db).rc = .success
      · obtain ⟨hupdated, htakes⟩ := hrc.mp hok
        exact .inl ⟨hvalid.mp hupdated, htakes⟩
      · have hold := hstored'.symm.trans (hatomic.failed hok)
        exact .inr (Option.some.inj hold)
    · intro hkeeps
      obtain ⟨htaken, hrest⟩ := hkeeps hreach
      have hcaller : (mapAttributeSet lim env map_id (.mapToValueList qosmap) db).attr =
          .mapToValueList qosmap := by
        rw [hattr, hqosmap.mpr htaken]
      refine ⟨fun hok => ?_, fun hfail => ?_, hcaller, ?_⟩
      · refine ⟨_, hstored', fun i => ?_⟩
        rw [hvalid.mp (hrc.mp hok).1]
        exact overlay_getElem? _ hcovers _ _ i
      · have hleft := hrest.resolve_left fun h => hfail (hrc.mpr ⟨hvalid.mpr h.1, h.2⟩)
        rw [hstored', hleft]
      · intro env' htakes set hok
        have hattr' : set.attr = .mapToValueList qosmap := hcaller
        rw [hattr']
        have hall := (hrc.mp hok).1
        obtain ⟨hrc₂, -, hnode₂⟩ := mapAttributeSet_reached lim _ _ _ htype hnode' rfl
          ⟨htakes.attribute_table, htakes.validate, htakes.supported⟩
        obtain ⟨hvalid₂, hlist₂, -⟩ := mapListUpdate_eq _ _
          _
        refine ⟨hrc₂.mpr ⟨hvalid₂.mpr (hvalid.mp hall), htakes.set _ _ _ _⟩, ?_⟩
        have hstored₂ := storedList_of_node _ hnode₂ rfl
        rw [hlist₂, hlist, overlay_overlay _ hcovers] at hstored₂
        exact hstored₂.trans hstored'.symm
  · obtain ⟨hrc, hattr, hnode'⟩ :=
      mapAttributeSet_stopped lim env _ _ htype hnode htable hreach
    refine iff_of_true ⟨fun hok => absurd hok hrc, fun _ => storedList_of_node _ hnode' htable, hattr,
      ?_⟩ fun h => absurd h hreach
    intro env' htakes set hok
    exact absurd hok hrc

def queueEntry (tc queue_index : Nat) : MapEntry :=
  ⟨{ MapParams.zero with tc := tc }, { MapParams.zero with queue_index := queue_index }⟩

/-- A map of traffic classes to queues with the default table, and no ports. -/
def queueMap : QosMap := ⟨.tcToQueue, some ⟨tcToQueueDefault .small, []⟩, []⟩

def queueMapId : Oid := ⟨.qosMap, 1⟩

def queueMapDb : MapDb := MapDb.initial.setMap queueMapId (some queueMap)

theorem mapSetAtomic_iff_queues :
    MapSetAtomic .small (.good 1) queueMapId .tcToQueue (tcToQueueDefault .small)
      [queueEntry 1 0, queueEntry 1 9] queueMapDb ↔
    MapSetKeeps .small (.good 1) queueMapId queueMap ⟨tcToQueueDefault .small, []⟩
      [queueEntry 1 0, queueEntry 1 9] queueMapDb :=
  mapSetAtomic_iff .small (.good 1) queueMapId queueMap ⟨tcToQueueDefault .small, []⟩
    _ _ rfl rfl rfl

/-- The second entry is for a queue that is not there, and the first one is in the table. -/
theorem not_mapSetAtomic :
    ¬ ∀ (lim : MapLimits) (env : MapEnv) (map_id : Oid) (node : QosMap) (table : MapTable)
      (qosmap : List MapEntry) (db : MapDb), map_id.type = .qosMap →
      db.maps map_id = some node → node.map_to_value = some table →
      MapSetAtomic lim env map_id node.map_type table.list qosmap db := by
  intro h
  have hatomic := h .small (.good 1) queueMapId queueMap ⟨tcToQueueDefault .small, []⟩
    [queueEntry 1 1, queueEntry 1 9] queueMapDb rfl rfl rfl
  have hstored := hatomic.failed (by decide)
  revert hstored
  decide

end OpxSai
