import Mathlib.Logic.Basic
import OpxSai.Qos.Map

/-!
# The map of a port for a type

A port takes a map, changes it or gives it up: the NPU is asked first, and the port and the lists of the
two maps follow. Where a port gives a map up, the NPU is asked once more, and the port has lost the map
whatever it answers then.
-/

namespace OpxSai

open MapDb

/-! ## Views -/

/-- `maps_id` of a port, where it has no map for a type the null object. -/
def MapDb.mapsId (db : MapDb) (port_id : Oid) (map_type : QosMapType) : Oid :=
  (db.ports port_id).elim .null fun maps_id => maps_id map_type

def HwMapsAgree (port_id : Oid) (db : MapDb) : Prop :=
  ∀ t, db.hw_map port_id t = db.mapsId port_id t

structure OnlyCalls (db db' : MapDb) : Prop where
  maps : db'.maps = db.maps
  ports : db'.ports = db.ports
  hw_map : db'.hw_map = db.hw_map

theorem OnlyCalls.refl (db) : OnlyCalls db db := ⟨rfl, rfl, rfl⟩

def MapLetGo (env : MapEnv) (port_id : Oid) (map_type : QosMapType) (db : MapDb) : Prop :=
  (db.maps (db.mapsId port_id map_type)).isSome = true ∧
  env.outside db.outside_log (.portMapSet port_id (db.mapsId port_id map_type) map_type false) = .success

/-- A port takes a map for a type, with the null object none; what is in the NPU follows where it was as
the port had it. -/
structure MapMoved (port_id : Oid) (map_type : QosMapType) (map_id : Oid) (db db' : MapDb) : Prop where
  ports : ∀ p, db'.ports p =
    if p = port_id then (db.ports p).map fun maps_id => mapsIdSet maps_id map_type map_id
    else db.ports p
  hw : HwMapsAgree port_id db → ∀ p t, db'.hw_map p t =
    if p = port_id ∧ t = map_type then map_id else db.hw_map p t

/-! ## Calls -/

section Calls

variable (env : MapEnv) (port_id : Oid) (maps_id : QosMapType → Oid)

variable (types : List QosMapType) (map_type : QosMapType) (db : MapDb)

theorem call_refused {c} (h : (db.call env c).1 ≠ .success) :
    OnlyCalls db (db.call env c).2 := by
  refine ⟨call_maps db env c, call_ports db env c, ?_⟩
  simp only [call] at h ⊢
  rw [if_neg h]

theorem call_portMapSet (map_id) (map_type) (add : Bool)
    (h : (db.call env (.portMapSet port_id map_id map_type add)).1 = .success) (p)
    (t) :
    (db.call env (.portMapSet port_id map_id map_type add)).2.hw_map p t =
      if p = port_id ∧ t = map_type then (if add = true then map_id else .null)
      else db.hw_map p t := by
  simp only [call] at h ⊢
  rw [if_pos h]
  rfl

/-- A map that the NPU has on the port anyway is given to it again. -/
theorem call_portMapSet_again {db} {map_id} {map_type}
    (hhw : db.hw_map port_id map_type = map_id) :
    OnlyCalls db (db.call env (.portMapSet port_id map_id map_type true)).2 := by
  by_cases h : (db.call env (.portMapSet port_id map_id map_type true)).1 = .success
  · refine ⟨call_maps db env _, call_ports db env _, ?_⟩
    funext p t
    rw [call_portMapSet env _ db _ _ _ h]
    split
    next heq =>
      rw [heq.1, heq.2]
      exact hhw.symm
    · rfl
  · exact call_refused env db h

theorem reapplyFirst_ports : (reapplyFirst env port_id maps_id types db).2.ports = db.ports := by
  induction types with
  | nil => rfl
  | cons t rest ih =>
    simp only [reapplyFirst]
    split
    · exact call_ports db env _
    · exact ih

theorem reapplyFirst_maps : (reapplyFirst env port_id maps_id types db).2.maps = db.maps := by
  induction types with
  | nil => rfl
  | cons t rest ih =>
    simp only [reapplyFirst]
    split
    · exact call_maps db env _
    · exact ih

theorem reapplyFirst_hw {db} (hhw : ∀ t, db.hw_map port_id t = maps_id t)
    (types) : OnlyCalls db (reapplyFirst env port_id maps_id types db).2 := by
  induction types with
  | nil => exact .refl db
  | cons t rest ih =>
    simp only [reapplyFirst]
    split
    · exact call_portMapSet_again env _ (hhw t)
    · exact ih

theorem mapUpdateIngressMaps_nodes :
    (mapUpdateIngressMaps env port_id maps_id map_type db).2.maps = db.maps ∧
    (mapUpdateIngressMaps env port_id maps_id map_type db).2.ports = db.ports := by
  have hfirst : ∀ types, (reapplyFirst env port_id maps_id types db).2.maps = db.maps ∧
      (reapplyFirst env port_id maps_id types db).2.ports = db.ports := fun types =>
    ⟨reapplyFirst_maps env _ _ _ db, reapplyFirst_ports env _ _ _ db⟩
  unfold mapUpdateIngressMaps
  split
  any_goals exact hfirst _
  any_goals
    split
    · exact ⟨call_maps db env _, call_ports db env _⟩
    · exact hfirst _
  exact ⟨rfl, rfl⟩

theorem mapUpdateIngressMaps_hw (hhw : ∀ t, db.hw_map port_id t = maps_id t) :
    OnlyCalls db (mapUpdateIngressMaps env port_id maps_id map_type db).2 := by
  unfold mapUpdateIngressMaps
  split
  any_goals exact reapplyFirst_hw env _ _ hhw _
  any_goals
    split
    next hnull => exact call_portMapSet_again env _ ((hhw _).trans hnull.1)
    · exact reapplyFirst_hw env _ _ hhw _
  exact .refl db

end Calls

/-! ## The operations -/

section Operations

variable (env : MapEnv) {port_id map_id : Oid} {maps_id : QosMapType → Oid} (map_type : QosMapType)
  {db : MapDb}

theorem mapsId_of (hport : db.ports port_id = some maps_id) : db.mapsId port_id = maps_id := by
  funext t
  simp only [mapsId, hport, Option.elim_some]

theorem mapPortRemove_cases (hport : db.ports port_id = some maps_id) :
    let x := mapPortRemove env port_id maps_id map_type db
    (¬ MapLetGo env port_id map_type db ∧ x.1 ≠ .success ∧ OnlyCalls db x.2) ∨
    (MapLetGo env port_id map_type db ∧ MapMoved port_id map_type .null db x.2 ∧
      x.2.maps = (mapPortUnlink (maps_id map_type) (port_id, map_type) db).maps) := by
  intro x
  have hx : mapPortRemove env port_id maps_id map_type db = x := rfl
  clear_value x
  have hletgo : MapLetGo env port_id map_type db ↔ (db.maps (maps_id map_type)).isSome = true ∧
      (db.call env (.portMapSet port_id (maps_id map_type) map_type false)).1 = .success := by
    simp only [MapLetGo, mapsId_of hport, call]
  simp only [mapPortRemove] at hx
  split at hx
  next hnone =>
    subst hx
    refine .inl ⟨fun h => ?_, by simp, .refl db⟩
    rw [hletgo, hnone] at h
    cases h.1
  rename_i node hnode
  have hset := call_portMapSet env port_id db (maps_id map_type) map_type false
  have hmaps := call_maps db env (.portMapSet port_id (maps_id map_type) map_type false)
  have hports := call_ports db env (.portMapSet port_id (maps_id map_type) map_type false)
  have hrefused := @call_refused env db (.portMapSet port_id (maps_id map_type) map_type false)
  generalize db.call _ _ = set at hx hset hmaps hports hrefused hletgo
  split at hx
  next hfail =>
    subst hx
    exact .inl ⟨fun h => hfail (hletgo.mp h).2, hfail, hrefused hfail⟩
  rename_i hok
  have hok := not_not.mp hok
  refine .inr ⟨hletgo.mpr ⟨by rw [hnode]; rfl, hok⟩, ?_⟩
  generalize hunlinked : mapPortUnlink _ _ _ = unlinked at hx
  have hnodes := mapUpdateIngressMaps_nodes env port_id (mapsIdSet maps_id map_type .null) map_type
    unlinked
  have hkept := mapUpdateIngressMaps_hw env port_id (mapsIdSet maps_id map_type .null) map_type
    unlinked
  rw [hx] at hnodes hkept
  refine ⟨⟨fun p => ?_, fun hagree p t => ?_⟩, ?_⟩
  · rw [hnodes.2, ← hunlinked]
    show (if p = port_id then some (mapsIdSet maps_id map_type .null) else set.2.ports p) = _
    split
    next hp =>
      rw [hp, hport]
      rfl
    · rw [hports]
  · have hhw : ∀ p t, unlinked.hw_map p t =
        if p = port_id ∧ t = map_type then Oid.null else db.hw_map p t := by
      intro p t
      rw [← hunlinked]
      exact hset hok p t
    rw [(hkept fun t => ?_).hw_map, hhw]
    rw [hhw]
    simp only [mapsIdSet, true_and]
    split
    · rfl
    · rw [hagree, mapsId_of hport]
  · rw [hnodes.1, ← hunlinked]
    show (fun o => if o = maps_id map_type then (set.2.maps o).map _ else set.2.maps o) = _
    rw [hmaps]
    rfl

/-- The maps after a port took one, where it had another before. -/
def mapsLinked (port_id map_id : Oid) (maps_id : QosMapType → Oid) (map_type : QosMapType)
    (db : MapDb) : Oid → Option QosMap :=
  (mapPortLink map_id (port_id, map_type)
    (if maps_id map_type ≠ .null then mapPortUnlink (maps_id map_type) (port_id, map_type) db
     else db)).maps

theorem mapPortAdd_cases (hport : db.ports port_id = some maps_id) :
    let x := mapPortAdd env port_id maps_id map_id map_type db
    (x.1 ≠ .success ∧ OnlyCalls db x.2 ∧ ((db.maps map_id).isSome = true →
      env.outside db.outside_log (.portMapSet port_id map_id map_type true) ≠ .success)) ∨
    (x.1 = .success ∧ (db.maps map_id).isSome = true ∧ MapMoved port_id map_type map_id db x.2 ∧
      x.2.maps = mapsLinked port_id map_id maps_id map_type db) := by
  intro x
  have hx : mapPortAdd env port_id maps_id map_id map_type db = x := rfl
  clear_value x
  have hanswer : (db.call env (.portMapSet port_id map_id map_type true)).1 =
    env.outside db.outside_log (.portMapSet port_id map_id map_type true) := rfl
  simp only [mapPortAdd] at hx
  split at hx
  next hnone =>
    subst hx
    exact .inl ⟨by simp, .refl db, fun h => by rw [hnone] at h; cases h⟩
  rename_i node hnode
  have hset := call_portMapSet env port_id db map_id map_type true
  have hmaps := call_maps db env (.portMapSet port_id map_id map_type true)
  have hports := call_ports db env (.portMapSet port_id map_id map_type true)
  have hrefused := @call_refused env db (.portMapSet port_id map_id map_type true)
  rw [← hanswer]
  generalize db.call _ _ = set at hx hset hmaps hports hrefused ⊢
  split at hx
  next hfail =>
    subst hx
    exact .inl ⟨hfail, hrefused hfail, fun _ => hfail⟩
  rename_i hok
  have hok := not_not.mp hok
  subst hx
  refine .inr ⟨rfl, by rw [hnode]; rfl, ⟨fun p => ?_, fun _ p t => ?_⟩, ?_⟩
  · by_cases hnull : maps_id map_type = .null
    all_goals
      simp only [hnull, ne_eq, not_true_eq_false, not_false_eq_true, if_true, if_false]
      show (if p = port_id then some (mapsIdSet maps_id map_type map_id) else set.2.ports p) = _
      split
      next hp =>
        rw [hp, hport]
        rfl
      · rw [hports]
  · by_cases hnull : maps_id map_type = .null
    all_goals
      simp only [hnull, ne_eq, not_true_eq_false, not_false_eq_true, if_true, if_false]
      exact hset hok p t
  · simp only [mapsLinked]
    by_cases hnull : maps_id map_type = .null
    all_goals
      simp only [hnull, ne_eq, not_true_eq_false, not_false_eq_true, if_true, if_false,
        mapPortLink, mapPortUnlink, setMapsId, hmaps]

end Operations

end OpxSai
