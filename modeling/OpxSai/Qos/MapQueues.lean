import Mathlib.Data.List.TakeWhile
import Mathlib.Logic.Basic
import OpxSai.Lib.Run
import OpxSai.Qos.MapPorts

/-!
# Queue indexes in maps

A map to queues has a half for the unicast queues and a half for the multicast queues. The two types of
it check an entry in different ways: for a priority, the queue index one above the last is let through,
and the priority itself is not looked at.

* `tcToQueue_fits`, `pfcPriToQueue_fits` — entries that are valid, and the condition on priorities;
* `queuesInRange_of_run` — the property holds in every run under the condition.
-/

namespace OpxSai

open MapDb
variable {db : MapDb} {attr_list : List MapAttr}
variable {map_type : QosMapType} {qosmap : List MapEntry} {half : Nat} {db' : MapDb}

/-! ## Property -/

variable (env : MapEnv) (map_id : Oid) (glue : Oid × QosMapType)

/-- The length of a half of the table, for the types that go to queues. -/
def queueHalf (lim : MapLimits) : QosMapType → Option Nat
  | .tcToQueue => some lim.max_tc
  | .pfcPriorityToQueue => some lim.max_pfc_pri
  | _ => none

def QueueIndexOk (lim : MapLimits) (half index queue_index : Nat) : Prop :=
  if index < half then queue_index < lim.max_uc_queues
  else queue_index < lim.max_queues - lim.max_uc_queues

/-- A table with two halves: what was written to it was written inside of it and is in the range of its
half, and the rest is the default. -/
structure QueuesInRange (lim : MapLimits) (half : Nat) (default : List MapEntry)
    (table : MapTable) : Prop where
  length : table.list.length = mapsGetMaxQueueIdx * half
  inside : ∀ index ∈ table.writes, index < table.list.length
  range : ∀ index ∈ table.writes, ∀ cell, table.list[index]? = some cell →
    QueueIndexOk lim half index cell.value.queue_index
  kept : ∀ index, index ∉ table.writes → table.list[index]? = default[index]?

def MapInRange (lim : MapLimits) (map_type : QosMapType) (map_to_value : Option MapTable) : Prop :=
  ∀ half, queueHalf lim map_type = some half → ∀ table, map_to_value = some table →
    QueuesInRange lim half (defaultOf lim map_type) table

/-- What `sai_qos_maps_attr_value_validate` promises of a traffic class. -/
def MapLimits.ValidatesTc (lim : MapLimits) : Prop :=
  ∀ dot1p tc color dscp, lim.attr_value_validate dot1p tc color dscp = .success → tc < lim.max_tc

/-- There are unicast queues and multicast queues. -/
def MapLimits.TwoKinds (lim : MapLimits) : Prop :=
  0 < lim.max_uc_queues ∧ lim.max_uc_queues < lim.max_queues

/-- The entries of a list that are written, if it is for a map from priorities: the priority is one of
the table, and the queue index is not the one above the last. -/
def ListFits (lim : MapLimits) (map_type : QosMapType) (qosmap : List MapEntry) : Prop :=
  map_type = .pfcPriorityToQueue →
    ∀ e ∈ qosmap.takeWhile fun e => (pfcPriToQueueListUpdate lim).check e = .success,
      e.key.prio < lim.max_pfc_pri ∧ e.value.queue_index ≠ lim.max_queues

structure EntryFits (lim : MapLimits) (half : Nat) (update : EntryUpdate) (e : MapEntry) : Prop where
  inside : update.index e < mapsGetMaxQueueIdx * half
  range : ∀ cell, QueueIndexOk lim half (update.index e) (update.put e cell).value.queue_index

section Entries

variable {lim : MapLimits} {e : MapEntry}

theorem splitQueueIndex_range {key : Nat} (htwo : lim.TwoKinds) (hkey : key < half)
    (hqueue : e.value.queue_index < lim.max_queues) :
    let index := if e.value.queue_index ≥ lim.max_uc_queues then half + key else key
    index < mapsGetMaxQueueIdx * half ∧
    QueueIndexOk lim half index (splitQueueIndex lim e).value.queue_index := by
  obtain ⟨hpos, hlt⟩ := htwo
  simp only [QueueIndexOk, splitQueueIndex, mapsGetMaxQueueIdx]
  by_cases hmc : e.value.queue_index ≥ lim.max_uc_queues
  · have hright : ¬ half + key < half := by omega
    rw [if_pos hmc, if_pos hmc, if_neg hright]
    constructor
    · omega
    · show e.value.queue_index - lim.max_uc_queues < lim.max_queues - lim.max_uc_queues
      omega
  · rw [if_neg hmc, if_neg hmc, if_pos hkey]
    constructor <;> omega

theorem tcToQueue_fits (htwo : lim.TwoKinds) (htc : lim.ValidatesTc)
    (hcheck : (tcToQueueListUpdate lim).check e = .success) :
    EntryFits lim lim.max_tc (tcToQueueListUpdate lim) e := by
  have hvalid : lim.attr_value_validate 0 e.key.tc 0 0 = .success ∧
      e.value.queue_index < lim.max_queues := by
    simp only [tcToQueueListUpdate] at hcheck
    split at hcheck
    next hfail => exact absurd hcheck hfail
    rename_i hok
    split at hcheck
    · simp at hcheck
    next hqueue => exact ⟨not_not.mp hok, by omega⟩
  obtain ⟨hinside, hrange⟩ :=
    splitQueueIndex_range (e := e) htwo (htc _ _ _ _ hvalid.1) hvalid.2
  exact ⟨hinside, fun _ => hrange⟩

theorem pfcPriToQueue_fits (htwo : lim.TwoKinds)
    (hcheck : (pfcPriToQueueListUpdate lim).check e = .success)
    (hprio : e.key.prio < lim.max_pfc_pri) (hlast : e.value.queue_index ≠ lim.max_queues) :
    EntryFits lim lim.max_pfc_pri (pfcPriToQueueListUpdate lim) e := by
  have hqueue : e.value.queue_index < lim.max_queues := by
    simp only [pfcPriToQueueListUpdate] at hcheck
    split at hcheck
    · simp at hcheck
    · omega
  obtain ⟨hinside, hrange⟩ := splitQueueIndex_range (e := e) htwo hprio hqueue
  exact ⟨hinside, fun _ => hrange⟩

end Entries

section Tables

variable {lim : MapLimits} {default : List MapEntry} {update : EntryUpdate}
  {table : MapTable}

theorem queuesInRange_default (hlength : default.length = mapsGetMaxQueueIdx * half) :
    QueuesInRange lim half default ⟨default, []⟩ :=
  ⟨hlength, by simp, by simp, fun _ _ => rfl⟩

theorem QueuesInRange.write (h : QueuesInRange lim half default table) {e}
    (he : EntryFits lim half update e) :
    QueuesInRange lim half default (table.write (update.index e) (update.put e)) := by
  have hlength : (table.write (update.index e) (update.put e)).list.length = table.list.length :=
    List.length_modify _ _ _
  refine ⟨hlength.trans h.length, fun index hmem => ?_, fun index hmem cell hcell => ?_,
    fun index hmem => ?_⟩
  · rw [hlength]
    rcases List.mem_append.mp hmem with hold | hnew
    · exact h.inside _ hold
    obtain rfl := List.mem_singleton.mp hnew
    rw [h.length]
    exact he.inside
  · by_cases hindex : index = update.index e
    · subst hindex
      rw [MapTable.write_getElem?] at hcell
      obtain ⟨old, -, rfl⟩ := Option.map_eq_some_iff.mp hcell
      exact he.range old
    rw [MapTable.write_getElem?_ne _ _ hindex] at hcell
    rcases List.mem_append.mp hmem with hold | hnew
    · exact h.range _ hold _ hcell
    · exact absurd (List.mem_singleton.mp hnew) hindex
  · have hold : index ∉ table.writes := fun hin => hmem (List.mem_append_left _ hin)
    have hnew : index ≠ update.index e := fun heq =>
      hmem (List.mem_append_right _ (List.mem_singleton.mpr heq))
    rw [MapTable.write_getElem?_ne _ _ hnew]
    exact h.kept _ hold

theorem mapListUpdate_inRange (hfits : ∀ e ∈ qosmap.takeWhile fun e => update.check e = .success,
      EntryFits lim half update e) :
    ∀ table, QueuesInRange lim half default table →
      QueuesInRange lim half default (mapListUpdate update qosmap table).table := by
  induction qosmap with
  | nil => exact fun _ h => h
  | cons e rest ih =>
    intro table h
    simp only [mapListUpdate]
    split
    · exact h
    rename_i hok
    rw [List.takeWhile_cons_of_pos (by simpa using hok)] at hfits
    have he := hfits e List.mem_cons_self
    exact ih (fun e' he' => hfits e' (List.mem_cons_of_mem _ he')) _ (h.write he)

end Tables

/-! ## Maps -/

section Maps

variable {lim : MapLimits}

theorem defaultOf_length (hhalf : queueHalf lim map_type = some half) :
    (defaultOf lim map_type).length = mapsGetMaxQueueIdx * half := by
  cases map_type <;> simp [queueHalf] at hhalf <;>
    simp [defaultOf, tcToQueueDefault, pfcPriToQueueDefault, hhalf]

theorem listUpdateOf_fits (htwo : lim.TwoKinds) (htc : lim.ValidatesTc)
    (hhalf : queueHalf lim map_type = some half) (hfits : ListFits lim map_type qosmap) :
    ∀ e ∈ qosmap.takeWhile fun e => (listUpdateOf lim map_type).check e = .success,
      EntryFits lim half (listUpdateOf lim map_type) e := by
  intro e he
  have hcheck : (listUpdateOf lim map_type).check e = .success := by
    simpa using List.mem_takeWhile_imp he
  cases map_type <;> simp only [queueHalf, Option.some.injEq, reduceCtorEq] at hhalf
  · subst hhalf
    exact tcToQueue_fits htwo htc hcheck
  · subst hhalf
    obtain ⟨hprio, hlast⟩ := hfits rfl e he
    exact pfcPriToQueue_fits htwo hcheck hprio hlast

theorem mapInRange_none (map_type) : MapInRange lim map_type none := by
  intro half _ table htable
  simp at htable

theorem mapInRange_default :
    MapInRange lim map_type (some ⟨defaultOf lim map_type, []⟩) := by
  intro half hhalf table htable
  cases htable
  exact queuesInRange_default (defaultOf_length hhalf)

theorem mapDefaultSet_inRange {env} {node}
    (h : MapInRange lim node.map_type node.map_to_value) :
    (mapDefaultSet lim env node).2.map_type = node.map_type ∧
    MapInRange lim node.map_type (mapDefaultSet lim env node).2.map_to_value := by
  simp only [mapDefaultSet]
  split
  · exact ⟨rfl, mapInRange_default⟩
  · exact ⟨rfl, h⟩

theorem mapListAttrSet_inRange (htwo : lim.TwoKinds) (htc : lim.ValidatesTc) {env}
    {op_type} {node} (hfits : ListFits lim node.map_type qosmap)
    (h : MapInRange lim node.map_type node.map_to_value) :
    (mapListAttrSet lim env op_type qosmap node).node.map_type = node.map_type ∧
    MapInRange lim node.map_type (mapListAttrSet lim env op_type qosmap node).node.map_to_value := by
  simp only [mapListAttrSet]
  split
  · exact ⟨rfl, h⟩
  simp only [mapValueSet]
  generalize hstart : (if op_type = .create ∨ (op_type = .set ∧ node.map_to_value = none) then
    mapDefaultSet lim env node else (Status.success, node)) = start
  have hstart' : start.2.map_type = node.map_type ∧
      MapInRange lim node.map_type start.2.map_to_value := by
    rw [← hstart]
    split
    · exact mapDefaultSet_inRange h
    · exact ⟨rfl, h⟩
  obtain ⟨htype, hrange⟩ := hstart'
  split
  · exact ⟨htype, hrange⟩
  split
  · exact ⟨htype, hrange⟩
  rename_i table htable
  refine ⟨htype, fun half hhalf table' htable' => ?_⟩
  cases htable'
  exact mapListUpdate_inRange (listUpdateOf_fits htwo htc hhalf hfits) _
    (hrange half hhalf table htable)

theorem parseOthers_inRange (htwo : lim.TwoKinds) (htc : lim.ValidatesTc) {env}
    {op_type} (map_type)
    (hfits : ∀ qosmap, .mapToValueList qosmap ∈ attr_list → ListFits lim map_type qosmap) :
    ∀ list_idx node, node.map_type = map_type → MapInRange lim map_type node.map_to_value →
      (parseOthers lim env op_type list_idx attr_list node).node.map_type = map_type ∧
      MapInRange lim map_type
        (parseOthers lim env op_type list_idx attr_list node).node.map_to_value := by
  induction attr_list with
  | nil => exact fun _ _ htype h => ⟨htype, h⟩
  | cons attr rest ih =>
    intro list_idx node htype h
    have hrest := ih fun qosmap hmem => hfits qosmap (List.mem_cons_of_mem _ hmem)
    cases attr with
    | type s32 => exact hrest (list_idx + 1) node htype h
    | unknown id => exact ⟨htype, h⟩
    | mapToValueList qosmap =>
      have hlist := hfits qosmap List.mem_cons_self
      subst htype
      obtain ⟨htype', h'⟩ :
          (mapsAttrSet lim env op_type (.mapToValueList qosmap) node).node.map_type =
            node.map_type ∧
          MapInRange lim node.map_type
            (mapsAttrSet lim env op_type (.mapToValueList qosmap) node).node.map_to_value :=
        mapListAttrSet_inRange htwo htc hlist h
      simp only [parseOthers]
      split
      · exact ⟨htype', h'⟩
      · exact hrest (list_idx + 1) _ htype' h'

end Maps

/-! ## Runs -/

inductive MapLabel where
  | create (env : MapEnv) (attr_list : List MapAttr)
  | remove (env : MapEnv) (map_id : Oid)
  | set (env : MapEnv) (map_id : Oid) (attr : MapAttr)
  | onPort (env : MapEnv) (port_id map_id : Oid) (map_type : Option QosMapType)

def mapStep (lim : MapLimits) : MapLabel → MapDb → MapDb
  | .create env attr_list, db => (mapCreate lim env attr_list db).2
  | .remove env map_id, db => (mapRemove env map_id db).2
  | .set env map_id attr, db => (mapAttributeSet lim env map_id attr db).db
  | .onPort env port_id map_id map_type, db =>
    (mapOnPortSetInternal env port_id map_id map_type db).2

def typeOf (attr_list : List MapAttr) : QosMapType := (parseType 0 attr_list QosMap.zero).2.map_type

def MapListsFit (lim : MapLimits) : MapLabel → MapDb → Prop
  | .create _ attr_list, _ =>
    ∀ qosmap, .mapToValueList qosmap ∈ attr_list → ListFits lim (typeOf attr_list) qosmap
  | .set _ map_id (.mapToValueList qosmap), db =>
    ∀ node, db.maps map_id = some node → ListFits lim node.map_type qosmap
  | _, _ => True

def MapsInRange (lim : MapLimits) (db : MapDb) : Prop :=
  ∀ map_id node, db.maps map_id = some node → MapInRange lim node.map_type node.map_to_value

/-! ## Ports -/

def TablesFrom (db db' : MapDb) : Prop :=
  ∀ map_id node, db'.maps map_id = some node → ∃ old, db.maps map_id = some old ∧
    node.map_type = old.map_type ∧ node.map_to_value = old.map_to_value

namespace TablesFrom

theorem of_maps (hmaps : db'.maps = db.maps) : TablesFrom db db' :=
  fun map_id node hnode => ⟨node, by rw [← hmaps, hnode], rfl, rfl⟩

theorem trans {db₁ db₂ db₃} (h : TablesFrom db₁ db₂) (h' : TablesFrom db₂ db₃) :
    TablesFrom db₁ db₃ := by
  intro map_id node hnode
  obtain ⟨mid, hmid, htype, htable⟩ := h' map_id node hnode
  obtain ⟨old, hold, htype', htable'⟩ := h map_id mid hmid
  exact ⟨old, hold, htype.trans htype', htable.trans htable'⟩

theorem of_ports (f : List (Oid × QosMapType) → List (Oid × QosMapType))
    (hmaps : ∀ o, db'.maps o = if o = map_id then
      (db.maps o).map fun node => { node with ports := f node.ports } else db.maps o) :
    TablesFrom db db' := by
  intro o node hnode
  rw [hmaps] at hnode
  split at hnode
  · obtain ⟨old, hold, rfl⟩ := Option.map_eq_some_iff.mp hnode
    exact ⟨old, hold, rfl, rfl⟩
  · exact ⟨node, hnode, rfl, rfl⟩

theorem link (db) : TablesFrom db (mapPortLink map_id glue db) :=
  .of_ports map_id (fun ports => ports ++ [glue]) fun _ => rfl

theorem unlink (db) : TablesFrom db (mapPortUnlink map_id glue db) :=
  .of_ports map_id (fun ports => ports.erase glue) fun _ => rfl

end TablesFrom

theorem mapOnPortSetInternal_tables {port_id map_id} {map_type} :
    TablesFrom db (mapOnPortSetInternal env port_id map_id map_type db).2 := by
  simp only [mapOnPortSetInternal]
  split
  · exact .of_maps rfl
  split
  · exact .of_maps rfl
  rename_i t _ maps_id _
  split
  · simp only [mapPortRemove]
    split
    · exact .of_maps rfl
    split
    · exact .of_maps (call_maps db env _)
    have hcalled : TablesFrom db ((db.call env (.portMapSet port_id (maps_id t) t
        false)).2.setMapsId port_id (mapsIdSet maps_id t .null)) :=
      .of_maps (call_maps db env _)
    exact (hcalled.trans (.unlink _ _ _)).trans (.of_maps (mapUpdateIngressMaps_nodes env _ _ _ _).1)
  split
  · exact .of_maps rfl
  simp only [mapPortAdd]
  split
  · exact .of_maps rfl
  split
  · exact .of_maps (call_maps db env _)
  have hcalled : TablesFrom db (db.call env (.portMapSet port_id map_id t true)).2 :=
    .of_maps (call_maps db env _)
  refine TablesFrom.trans ?_ (.link _ _ _)
  split
  · exact (hcalled.trans (.unlink _ _ _)).trans (.of_maps rfl)
  · exact hcalled.trans (.of_maps rfl)

/-! ## Steps -/

section Steps

variable {lim : MapLimits}

theorem parseType_table : ∀ list_idx node,
    (parseType list_idx attr_list node).2.map_to_value = node.map_to_value := by
  induction attr_list with
  | nil => exact fun _ _ => rfl
  | cons attr rest ih =>
    intro list_idx node
    cases attr with
    | type s32 => cases s32 <;> rfl
    | mapToValueList qosmap | unknown id => exact ih (list_idx + 1) node

theorem mapParse_create_inRange (htwo : lim.TwoKinds) (htc : lim.ValidatesTc) (env)
    (attr_list)
    (hfits : ∀ qosmap, .mapToValueList qosmap ∈ attr_list →
      ListFits lim (typeOf attr_list) qosmap) :
    let parsed := mapParseUpdateAttributes lim env .create attr_list QosMap.zero
    MapInRange lim parsed.node.map_type parsed.node.map_to_value := by
  intro parsed
  have hparsed : mapParseUpdateAttributes lim env .create attr_list QosMap.zero = parsed := rfl
  clear_value parsed
  simp only [mapParseUpdateAttributes] at hparsed
  split at hparsed
  · subst hparsed
    exact mapInRange_none _
  split at hparsed
  · subst hparsed
    exact mapInRange_none _
  rw [if_pos (by simp)] at hparsed
  have htable : (parseType 0 attr_list QosMap.zero).2.map_to_value = none :=
    parseType_table 0 _
  split at hparsed
  · subst hparsed
    rw [htable]
    exact mapInRange_none _
  subst hparsed
  obtain ⟨htype, hrange⟩ := parseOthers_inRange htwo htc _ hfits 0
    _ rfl (by rw [htable]; exact mapInRange_none _)
  rw [htype]
  exact hrange

theorem mapCreate_inRange (htwo : lim.TwoKinds) (htc : lim.ValidatesTc) {env}
    (hfits : ∀ qosmap, .mapToValueList qosmap ∈ attr_list →
      ListFits lim (typeOf attr_list) qosmap) (h : MapsInRange lim db) :
    MapsInRange lim (mapCreate lim env attr_list db).2 := by
  have hparsed := mapParse_create_inRange htwo htc env _ hfits
  simp only [mapCreate]
  split
  · exact h
  split
  · exact h
  generalize hlisted : (if (mapParseUpdateAttributes lim env .create attr_list
    QosMap.zero).node.map_to_value = none then _ else _) = listed
  have hrange : MapInRange lim listed.2.map_type listed.2.map_to_value := by
    rw [← hlisted]
    split
    · simp only [mapListDefaultSet]
      split
      · exact hparsed
      obtain ⟨htype, hdefault⟩ := mapDefaultSet_inRange hparsed
      rw [htype]
      exact hdefault
    · exact hparsed
  split
  · exact h
  split
  · intro map_id node hnode
    exact h map_id node (by simpa using hnode)
  split
  · intro map_id node hnode
    exact h map_id node (by simpa using hnode)
  intro map_id node hnode
  simp only [setMap_maps, call_maps] at hnode
  split at hnode
  · cases hnode
    exact hrange
  · exact h map_id node hnode

theorem mapParse_set_inRange (htwo : lim.TwoKinds) (htc : lim.ValidatesTc) (env)
    (attr) (node)
    (hfits : ∀ qosmap, attr = .mapToValueList qosmap → ListFits lim node.map_type qosmap)
    (h : MapInRange lim node.map_type node.map_to_value) :
    MapInRange lim node.map_type
      (mapParseUpdateAttributes lim env .set [attr] node).node.map_to_value := by
  simp only [mapParseUpdateAttributes]
  split
  · exact h
  split
  · exact h
  rw [if_pos (by simp)]
  cases attr with
  | type s32 => cases s32 <;> exact h
  | unknown id => exact h
  | mapToValueList qosmap =>
    have hlist : ∀ q, .mapToValueList q ∈ [MapAttr.mapToValueList qosmap] →
        ListFits lim node.map_type q := by
      intro q hq
      obtain rfl := MapAttr.mapToValueList.inj (List.mem_singleton.mp hq)
      exact hfits q rfl
    exact (parseOthers_inRange htwo htc _ hlist 0 _ rfl h).2

theorem MapsInRange.of_tables (h : MapsInRange lim db) (hfrom : TablesFrom db db') :
    MapsInRange lim db' := by
  intro map_id node hnode
  obtain ⟨old, hold, htype, htable⟩ := hfrom map_id node hnode
  rw [htype, htable]
  exact h map_id old hold

theorem MapsInRange.congr (h : MapsInRange lim db) (hmaps : db'.maps = db.maps) :
    MapsInRange lim db' :=
  h.of_tables (.of_maps hmaps)

theorem MapsInRange.setMap (h : MapsInRange lim db) (map_id) (node)
    (hnode : MapInRange lim node.map_type node.map_to_value) :
    MapsInRange lim (db.setMap map_id (some node)) := by
  intro o node' hnode'
  rw [setMap_maps] at hnode'
  split at hnode'
  · cases hnode'
    exact hnode
  · exact h o node' hnode'

theorem mapAttributeSet_inRange (htwo : lim.TwoKinds) (htc : lim.ValidatesTc) {env}
    {map_id} {attr}
    (hfits : ∀ node, db.maps map_id = some node → ∀ qosmap, attr = .mapToValueList qosmap →
      ListFits lim node.map_type qosmap) (h : MapsInRange lim db) :
    MapsInRange lim (mapAttributeSet lim env map_id attr db).db := by
  simp only [mapAttributeSet]
  split
  · exact h
  split
  · exact h
  rename_i exist hexist
  have hparsed := mapParse_set_inRange htwo htc env attr { exist with ports := [] }
    (hfits exist hexist) (h map_id exist hexist)
  generalize hwritten : (if exist.map_to_value.isSome = true then _ else db) = written
  have hrange : MapsInRange lim written := by
    rw [← hwritten]
    split
    · exact h.setMap map_id _ hparsed
    · exact h
  split
  · exact hrange
  split
  · exact hrange.congr (call_maps _ env _)
  have hcalled := hrange.congr (call_maps written env (.mapAttrSet map_id
    (mapParseUpdateAttributes lim env .set [attr] { exist with ports := [] }).node.map_type
    (mapParseUpdateAttributes lim env .set [attr] { exist with ports := [] }).node.map_to_value))
  have hstored := hcalled.setMap map_id { exist with
    map_to_value := (mapParseUpdateAttributes lim env .set [attr]
      { exist with ports := [] }).node.map_to_value } hparsed
  split
  · exact hstored
  · exact hstored.congr (mapPortListUpdate_maps env map_id exist.map_type exist.ports _)

theorem mapRemove_tables : TablesFrom db (mapRemove env map_id db).2 := by
  simp only [mapRemove]
  split
  · exact .of_maps rfl
  split
  · exact .of_maps rfl
  split
  · exact .of_maps rfl
  split
  · exact .of_maps (call_maps db env _)
  intro o node hnode
  simp only [setMap_maps, call_maps] at hnode
  split at hnode
  · simp at hnode
  · exact ⟨node, hnode, rfl, rfl⟩

theorem mapStep_inRange (htwo : lim.TwoKinds) (htc : lim.ValidatesTc) {label}
    (h : MapsInRange lim db) (hok : MapListsFit lim label db) :
    MapsInRange lim (mapStep lim label db) := by
  cases label with
  | create env attr_list => exact mapCreate_inRange htwo htc hok h
  | remove env map_id => exact h.of_tables (mapRemove_tables env _)
  | onPort env port_id map_id map_type => exact h.of_tables (mapOnPortSetInternal_tables env)
  | set env map_id attr =>
    refine mapAttributeSet_inRange htwo htc (fun node hnode qosmap hattr => ?_) h
    subst hattr
    exact hok node hnode

end Steps

/-- **The queue indexes of the maps stay in range**, in every run whose lists fit. -/
theorem queuesInRange_of_run {lim : MapLimits} (htwo : lim.TwoKinds) (htc : lim.ValidatesTc)
    {db : MapDb} (hrun : Run (mapStep lim) (MapListsFit lim) .initial db) : MapsInRange lim db := by
  refine hrun.induct (P := MapsInRange lim) (fun label s h hok => ?_) ?_
  · exact mapStep_inRange htwo htc h hok
  · intro map_id node hnode
    simp [MapDb.initial] at hnode

theorem small_validatesTc : MapLimits.small.ValidatesTc := by
  intro dot1p tc color dscp h
  simp only [MapLimits.small] at h ⊢
  split at h
  next hall => exact hall.2.1
  · simp at h

def prioEntry (prio queue_index : Nat) : MapEntry :=
  ⟨{ MapParams.zero with prio := prio }, { MapParams.zero with queue_index := queue_index }⟩

def prioMapId : Oid := ⟨.qosMap, 1⟩

def createPrioMap : MapLabel := .create (.good 1) [.type (some .pfcPriorityToQueue)]

def setPrioMap (prio queue_index : Nat) : MapLabel :=
  .set (.good 1) prioMapId (.mapToValueList [prioEntry prio queue_index])

theorem queuesInRange_of_run_prio :
    MapsInRange .small
      (mapStep .small (setPrioMap 1 3) (mapStep .small createPrioMap .initial)) := by
  have hcreate : MapListsFit .small createPrioMap .initial := by
    intro qosmap hmem
    simp at hmem
  have hset : ∀ db, MapListsFit .small (setPrioMap 1 3) db := by
    intro db node _ _ e he
    have hmem : e ∈ [prioEntry 1 3] := (List.takeWhile_sublist _).subset he
    obtain rfl := List.mem_singleton.mp hmem
    exact ⟨by decide, by decide⟩
  exact @queuesInRange_of_run .small ⟨by decide, by decide⟩ small_validatesTc _
    (.snoc _ (.one _ hcreate) (hset _))

/-- The queue index one above the last is let through for a priority. -/
theorem not_queuesInRange :
    ¬ ∀ (lim : MapLimits), lim.TwoKinds → lim.ValidatesTc → ∀ db,
      Run (mapStep lim) (fun _ _ => True) .initial db → MapsInRange lim db := by
  intro h
  have hrange := h .small ⟨by decide, by decide⟩ small_validatesTc _
    (.snoc (setPrioMap 1 4) (.one createPrioMap trivial) trivial)
  have htable := hrange prioMapId _ rfl 2 rfl _ rfl
  have hindex := htable.range 3 (by decide) _ rfl
  revert hindex
  unfold QueueIndexOk
  decide

end OpxSai
