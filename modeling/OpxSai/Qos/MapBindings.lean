import OpxSai.Lib.Fibres
import OpxSai.Lib.Run
import OpxSai.Qos.MapQueues
import OpxSai.Qos.PortRestore
import OpxSai.Qos.QosPort

/-!
# The maps of ports

A port names a map for each type of map, and a map has a list of the ports that name it. A set writes both.
It does not look at the type of the map, and where the ingress maps are refused after a map was let go of,
it fails with the map gone.

* `MapsBound` — ids and lists agree, kept by every operation on a port;
* `mapBindingsExact_of_run` — the property holds in every state that is reached under the condition.
-/

namespace OpxSai

open MapDb
variable {maps_id : QosMapType → Oid} {maps maps' : Oid → Option QosMap} {o map_id : Oid}

/-! ## Ids and lists -/

def MapDb.portsOf (db : MapDb) (map_id : Oid) : List (Oid × QosMapType) :=
  (db.maps map_id).elim [] QosMap.ports

def MapDb.boundTo (db : MapDb) (glue : Oid × QosMapType) : Option Oid :=
  if db.mapsId glue.1 glue.2 = .null then none else some (db.mapsId glue.1 glue.2)

variable {db db' : MapDb}

/-- What a port names is a map of the type, and the list of a map has the ports that name it. -/
structure MapsBound (db : MapDb) : Prop where
  named : ∀ port_id t, db.mapsId port_id t ≠ .null →
    ∃ node, db.maps (db.mapsId port_id t) = some node ∧ node.map_type = t
  lists : Fibres db.portsOf db.boundTo
  typed : ∀ map_id, (db.maps map_id).isSome = true → map_id.type = .qosMap

/-- The ports name what they named, and the nodes have the types and the lists that they had. -/
structure BindingsSame (db db' : MapDb) : Prop where
  ids : ∀ port_id t, db'.mapsId port_id t = db.mapsId port_id t
  nodes : ∀ o, (db'.maps o).map (fun node => (node.map_type, node.ports)) =
    (db.maps o).map fun node => (node.map_type, node.ports)

namespace BindingsSame

theorem refl (db) : BindingsSame db db := ⟨fun _ _ => rfl, fun _ => rfl⟩

theorem trans {db₁ db₂ db₃} (h : BindingsSame db₁ db₂) (h' : BindingsSame db₂ db₃) :
    BindingsSame db₁ db₃ :=
  ⟨fun p t => (h'.ids p t).trans (h.ids p t), fun o => (h'.nodes o).trans (h.nodes o)⟩

theorem of_eq (hmaps : db'.maps = db.maps) (hports : db'.ports = db.ports) :
    BindingsSame db db' :=
  ⟨fun p t => by simp only [mapsId, hports], fun o => by rw [hmaps]⟩

theorem portsOf (h : BindingsSame db db') : db'.portsOf = db.portsOf := by
  funext o
  have hnode := h.nodes o
  simp only [MapDb.portsOf]
  cases ho : db.maps o with
  | none =>
    rw [ho, Option.map_none, Option.map_eq_none_iff] at hnode
    rw [hnode]
  | some node =>
    rw [ho] at hnode
    obtain ⟨node', hnode', heq⟩ := Option.map_eq_some_iff.mp hnode
    rw [hnode']
    exact congrArg Prod.snd heq

theorem boundTo (h : BindingsSame db db') : db'.boundTo = db.boundTo := by
  funext glue
  simp only [MapDb.boundTo, h.ids]

theorem node (h : BindingsSame db db') {old} (hold : db.maps o = some old) :
    ∃ node, db'.maps o = some node ∧ node.map_type = old.map_type := by
  have hnode := h.nodes o
  rw [hold] at hnode
  obtain ⟨node, hnode', heq⟩ := Option.map_eq_some_iff.mp hnode
  exact ⟨node, hnode', congrArg Prod.fst heq⟩

theorem isSome (h : BindingsSame db db') (o) : (db'.maps o).isSome = (db.maps o).isSome := by
  have hnode := congrArg Option.isSome (h.nodes o)
  rwa [Option.isSome_map, Option.isSome_map] at hnode

end BindingsSame

theorem MapsBound.congr (h : MapsBound db) (hsame : BindingsSame db db') :
    MapsBound db' := by
  refine ⟨fun p t hne => ?_, ?_, fun o ho => h.typed o ?_⟩
  · rw [hsame.ids] at hne ⊢
    obtain ⟨old, hold, htype⟩ := h.named p t hne
    obtain ⟨node, hnode, htype'⟩ := hsame.node hold
    exact ⟨node, hnode, htype'.trans htype⟩
  · rw [hsame.portsOf, hsame.boundTo]
    exact h.lists
  · rw [← hsame.isSome]
    exact ho

theorem MapsBound.null_none (h : MapsBound db) : db.maps .null = none := by
  by_contra hsome
  exact absurd (h.typed _ (Option.isSome_iff_ne_none.mpr hsome)) (by decide)

theorem MapsBound.initial : MapsBound .initial := by
  refine ⟨fun _ _ h => absurd rfl h, ⟨fun _ => List.nodup_nil, fun o glue => ?_⟩, fun o h => ?_⟩
  · exact iff_of_false List.not_mem_nil (by simp [MapDb.boundTo, mapsId, MapDb.initial])
  · cases h

/-! ## Writes to the lists -/

section Lists

variable (map_id : Oid) (glue : Oid × QosMapType) (db : MapDb)

theorem mapPortLink_portsOf (hnode : (db.maps map_id).isSome = true) :
    (mapPortLink map_id glue db).portsOf =
      fun o => if o = map_id then db.portsOf o ++ [glue] else db.portsOf o := by
  funext o
  simp only [portsOf, mapPortLink]
  split
  next ho =>
    obtain ⟨node, hnode⟩ := Option.isSome_iff_exists.mp hnode
    rw [ho, hnode]
    rfl
  · rfl

theorem mapPortUnlink_portsOf : (mapPortUnlink map_id glue db).portsOf =
    fun o => if o = map_id then (db.portsOf o).erase glue else db.portsOf o := by
  funext o
  simp only [portsOf, mapPortUnlink]
  split
  · cases db.maps o <;> rfl
  · rfl

theorem mapPortLink_types (o) :
    ((mapPortLink map_id glue db).maps o).map QosMap.map_type = (db.maps o).map QosMap.map_type := by
  simp only [mapPortLink]
  split
  · cases db.maps o <;> rfl
  · rfl

theorem mapPortUnlink_types (o) :
    ((mapPortUnlink map_id glue db).maps o).map QosMap.map_type =
      (db.maps o).map QosMap.map_type := by
  simp only [mapPortUnlink]
  split
  · cases db.maps o <;> rfl
  · rfl

end Lists

section Moved

variable {port_id : Oid} {t : QosMapType}

theorem MapMoved.ids (h : MapMoved port_id t map_id db db') (hport : db.ports port_id = some maps_id)
    (p) (t') : db'.mapsId p t' =
      if (p, t') = (port_id, t) then map_id else db.mapsId p t' := by
  by_cases hp : p = port_id
  · subst hp
    simp only [MapDb.mapsId, h.ports, if_true, hport, Option.map_some, Option.elim_some, mapsIdSet,
      Prod.mk.injEq, true_and]
  · simp only [MapDb.mapsId, h.ports, Prod.mk.injEq, hp, false_and, if_false]

theorem MapMoved.boundTo (h : MapMoved port_id t map_id db db')
    (hport : db.ports port_id = some maps_id) : db'.boundTo = fun glue =>
      if glue = (port_id, t) then (if map_id = .null then none else some map_id)
      else db.boundTo glue := by
  funext glue
  simp only [MapDb.boundTo, h.ids hport]
  by_cases hg : glue = (port_id, t)
  · simp only [hg, if_true]
  · rw [if_neg hg, if_neg hg]

theorem type_of_map (htypes : (maps' o).map QosMap.map_type = (maps o).map QosMap.map_type) {old}
    (hold : maps o = some old) : ∃ node, maps' o = some node ∧ node.map_type = old.map_type := by
  rw [hold] at htypes
  exact Option.map_eq_some_iff.mp htypes

theorem isSome_of_types (htypes : (maps' o).map QosMap.map_type = (maps o).map QosMap.map_type) :
    (maps' o).isSome = (maps o).isSome := by
  have h := congrArg Option.isSome htypes
  rwa [Option.isSome_map, Option.isSome_map] at h

theorem boundTo_eq_some {glue} (h : db.mapsId glue.1 glue.2 ≠ .null) :
    db.boundTo glue = some (db.mapsId glue.1 glue.2) := if_neg h

theorem boundTo_eq_none {glue} (h : db.mapsId glue.1 glue.2 = .null) :
    db.boundTo glue = none := if_pos h

theorem MapsBound.unlinked (h : MapsBound db) (hport : db.ports port_id = some maps_id)
    (hmap : maps_id t ≠ .null) (hmoved : MapMoved port_id t .null db db')
    (hmaps : db'.maps = (mapPortUnlink (maps_id t) (port_id, t) db).maps) : MapsBound db' := by
  have hid : db.mapsId port_id t = maps_id t := congrFun (mapsId_of hport) t
  have htypes := mapPortUnlink_types (maps_id t) (port_id, t) db
  rw [← hmaps] at htypes
  refine ⟨fun p t' hne => ?_, ?_, fun o ho => h.typed o ?_⟩
  · rw [hmoved.ids hport] at hne ⊢
    split at hne
    · exact absurd rfl hne
    rename_i hother
    rw [if_neg hother]
    obtain ⟨old, hold, htype⟩ := h.named p t' hne
    obtain ⟨node, hnode, htype'⟩ := type_of_map (htypes _) hold
    exact ⟨node, hnode, htype'.trans htype⟩
  · have hlists : db'.portsOf = (mapPortUnlink (maps_id t) (port_id, t) db).portsOf := by
      funext o
      simp only [portsOf, hmaps]
    rw [hlists, mapPortUnlink_portsOf, hmoved.boundTo hport]
    have hbound : db.boundTo (port_id, t) = some (maps_id t) := by
      rw [← hid]
      exact boundTo_eq_some (by rw [hid]; exact hmap)
    rw [if_pos rfl]
    exact h.lists.erase hbound
  · rw [← isSome_of_types (htypes o)]
    exact ho

/-- **A port takes a map** of the type, and leaves the one that it had. -/
theorem MapsBound.linked (h : MapsBound db) (hport : db.ports port_id = some maps_id)
    (hmap : map_id ≠ .null) {node} (hnode : db.maps map_id = some node)
    (htype : node.map_type = t) (hmoved : MapMoved port_id t map_id db db')
    (hmaps : db'.maps = mapsLinked port_id map_id maps_id t db) : MapsBound db' := by
  have hid : db.mapsId port_id t = maps_id t := congrFun (mapsId_of hport) t
  generalize hleft : (if maps_id t ≠ .null then mapPortUnlink (maps_id t) (port_id, t) db else db) =
    left at *
  have hmaps : db'.maps = (mapPortLink map_id (port_id, t) left).maps := by
    rw [hmaps, mapsLinked, hleft]
  have hlefttypes : ∀ o, (left.maps o).map QosMap.map_type = (db.maps o).map QosMap.map_type := by
    intro o
    rw [← hleft]
    split
    · exact mapPortUnlink_types _ _ db o
    · rfl
  have hlists : Fibres left.portsOf fun glue =>
      if glue = (port_id, t) then none else db.boundTo glue := by
    rw [← hleft]
    split
    next hhad =>
      rw [mapPortUnlink_portsOf]
      refine h.lists.erase ?_
      rw [← hid]
      exact boundTo_eq_some (by rw [hid]; exact hhad)
    rename_i hnull
    have hnone : db.boundTo (port_id, t) = none :=
      boundTo_eq_none (hid.trans (not_not.mp hnull))
    have hkey : (fun glue => if glue = (port_id, t) then none else db.boundTo glue) =
        db.boundTo := by
      funext glue
      split
      next hg => rw [hg, hnone]
      · rfl
    rw [hkey]
    exact h.lists
  have htypes := mapPortLink_types map_id (port_id, t) left
  rw [← hmaps] at htypes
  have htypes := fun o => (htypes o).trans (hlefttypes o)
  refine ⟨fun p t' hne => ?_, ?_, fun o ho => h.typed o ?_⟩
  · rw [hmoved.ids hport] at hne ⊢
    split at hne
    next hg =>
      rw [if_pos hg]
      obtain ⟨node', hnode', htype'⟩ := type_of_map (htypes _) hnode
      exact ⟨node', hnode', htype'.trans (htype.trans (congrArg Prod.snd hg).symm)⟩
    rename_i hother
    rw [if_neg hother]
    obtain ⟨old, hold, hold'⟩ := h.named p t' hne
    obtain ⟨node', hnode', htype'⟩ := type_of_map (htypes _) hold
    exact ⟨node', hnode', htype'.trans hold'⟩
  · have hafter : db'.portsOf = (mapPortLink map_id (port_id, t) left).portsOf := by
      funext o
      simp only [portsOf, hmaps]
    have hthere : (left.maps map_id).isSome = true := by
      rw [isSome_of_types (hlefttypes map_id), hnode]
      rfl
    rw [hafter, mapPortLink_portsOf map_id (port_id, t) left hthere, hmoved.boundTo hport]
    have happend := hlists.append (v := (port_id, t)) (if_pos rfl) map_id
    simp only [if_neg hmap]
    have hkey : (fun glue => if glue = (port_id, t) then some map_id else db.boundTo glue) =
        fun glue => if glue = (port_id, t) then some map_id
          else if glue = (port_id, t) then none else db.boundTo glue := by
      funext glue
      by_cases hg : glue = (port_id, t)
      · simp only [hg, if_true]
      · simp only [hg, if_false]
    rw [hkey]
    exact happend
  · rw [← isSome_of_types (htypes o)]
    exact ho

end Moved

/-! ## Sets -/

def firstMap (maps_id : QosMapType → Oid) (types : List QosMapType) : Option (Oid × QosMapType) :=
  (types.find? fun t => maps_id t != .null).map fun t => (maps_id t, t)

/-- The map that the NPU is given again when one of a type went. -/
def ingressAgain (maps_id : QosMapType → Oid) : QosMapType → Option (Oid × QosMapType)
  | .dot1pToTc | .dot1pToColor | .dot1pToTcAndColor =>
    firstMap maps_id [.dscpToTc, .dscpToColor, .dscpToTcAndColor]
  | .dscpToTc | .dscpToColor | .dscpToTcAndColor =>
    if maps_id .dot1pToTc = .null ∧ maps_id .dot1pToColor = .null ∧
        maps_id .dot1pToTcAndColor = .null then some (.null, .dot1pToTc)
    else firstMap maps_id [.dot1pToTc, .dot1pToColor, .dot1pToTcAndColor]
  | _ => none

/-- The NPU takes it, right after it let a map go. -/
def IngressTaken (env : MapEnv) (port_id : Oid) (t : QosMapType) (db : MapDb) : Prop :=
  ∀ again, ingressAgain (mapsIdSet (db.mapsId port_id) t .null) t = some again →
    env.outside (env.outside.log (.portMapSet port_id (db.mapsId port_id t) t false) db.outside_log)
      (.portMapSet port_id again.1 again.2 true) = .success

/-- **When a set keeps its promise.** A map that the NPU takes for a type is of that type, and where the
NPU lets a map go it takes the ingress maps after it. -/
structure MapSetFits (env : MapEnv) (port_id map_id : Oid) (t : QosMapType) (db : MapDb) : Prop where
  type : ∀ node, db.maps map_id = some node →
    env.outside db.outside_log (.portMapSet port_id map_id t true) = .success → node.map_type = t
  ingress : map_id = .null → MapLetGo env port_id t db → IngressTaken env port_id t db

section Sets

variable (env : MapEnv) {port_id : Oid} {t : QosMapType}

theorem call_outside_log (c) :
    (db.call env c).2.outside_log = env.outside.log c db.outside_log := by
  have hdone : ∀ db : MapDb, (db.done c).outside_log = db.outside_log := fun db => by
    cases c <;> rfl
  simp only [call]
  split
  · rw [hdone]
  · rfl

theorem reapplyFirst_rc (types) :
    (reapplyFirst env port_id maps_id types db).1 = (firstMap maps_id types).elim .success
      fun again => env.outside db.outside_log (.portMapSet port_id again.1 again.2 true) := by
  induction types with
  | nil => rfl
  | cons t rest ih =>
    simp only [reapplyFirst, firstMap, List.find?_cons, bne_iff_ne]
    by_cases hnull : maps_id t = .null
    · rw [if_ok hnull, ih, hnull]
      rfl
    · rw [if_pos hnull, show (maps_id t != Oid.null) = true from bne_iff_ne.mpr hnull]
      rfl

theorem mapUpdateIngressMaps_rc (maps_id : QosMapType → Oid) :
    (mapUpdateIngressMaps env port_id maps_id t db).1 = (ingressAgain maps_id t).elim .success
      fun again => env.outside db.outside_log (.portMapSet port_id again.1 again.2 true) := by
  cases t with
  | dot1pToTc | dot1pToColor | dot1pToTcAndColor => exact reapplyFirst_rc env _
  | dscpToTc | dscpToColor | dscpToTcAndColor =>
    simp only [mapUpdateIngressMaps, ingressAgain]
    split
    · rfl
    · exact reapplyFirst_rc env _
  | _ => rfl

/-- Where the NPU lets a map go, the set answers what the ingress maps do. -/
theorem mapPortRemove_rc (hport : db.ports port_id = some maps_id)
    (hgone : MapLetGo env port_id t db) (htaken : IngressTaken env port_id t db) :
    (mapPortRemove env port_id maps_id t db).1 = .success := by
  have hid : db.mapsId port_id = maps_id := mapsId_of hport
  obtain ⟨hnode, hok⟩ := hgone
  rw [hid] at hnode hok
  obtain ⟨node, hnode⟩ := Option.isSome_iff_exists.mp hnode
  have hset : (db.call env (.portMapSet port_id (maps_id t) t false)).1 = .success := hok
  simp only [mapPortRemove, hnode, if_ok hset]
  rw [mapUpdateIngressMaps_rc]
  unfold IngressTaken at htaken
  rw [hid] at htaken
  generalize ingressAgain _ t = again at htaken ⊢
  cases again with
  | none => rfl
  | some again =>
    have hlog : (mapPortUnlink (maps_id t) (port_id, t)
        ((db.call env (.portMapSet port_id (maps_id t) t false)).2.setMapsId port_id
          (mapsIdSet maps_id t .null))).outside_log =
        env.outside.log (.portMapSet port_id (maps_id t) t false) db.outside_log :=
      call_outside_log env _
    rw [Option.elim_some, hlog]
    exact htaken again rfl

theorem mapOnPortSetInternal_null (hport : db.ports port_id = some maps_id) :
    mapOnPortSetInternal env port_id .null (some t) db = mapPortRemove env port_id maps_id t db := by
  simp only [mapOnPortSetInternal, hport, if_true]

/-- **A set on a port** keeps the bindings, when a map that the NPU takes is of the type. -/
theorem mapOnPortSetInternal_bound (h : MapsBound db)
    (htype : ∀ node, db.maps map_id = some node →
      env.outside db.outside_log (.portMapSet port_id map_id t true) = .success → node.map_type = t) :
    MapsBound (mapOnPortSetInternal env port_id map_id (some t) db).2 := by
  cases hport : db.ports port_id with
  | none =>
    simp only [mapOnPortSetInternal, hport]
    exact h
  | some maps_id =>
    by_cases hnull : map_id = .null
    · subst hnull
      rw [mapOnPortSetInternal_null env hport]
      rcases mapPortRemove_cases env t hport with ⟨-, -, hsame⟩ | ⟨hgone, hmoved, hmaps⟩
      · exact h.congr (.of_eq hsame.maps hsame.ports)
      refine h.unlinked hport (fun hmap => ?_) hmoved hmaps
      have hnode := hgone.1
      rw [mapsId_of hport, hmap, h.null_none] at hnode
      cases hnode
    · simp only [mapOnPortSetInternal, hport, if_neg hnull]
      split
      · exact h
      have hanswer : (mapPortAdd env port_id maps_id map_id t db).1 = .success →
          env.outside db.outside_log (.portMapSet port_id map_id t true) = .success := by
        intro hok
        simp only [mapPortAdd] at hok
        split at hok
        · cases hok
        split at hok
        next hfail => exact absurd hok hfail
        next hset => exact not_not.mp hset
      rcases @mapPortAdd_cases env _ map_id _ t _ hport with
        ⟨-, hsame, -⟩ | ⟨hok, hthere, hmoved, hmaps⟩
      · exact h.congr (.of_eq hsame.maps hsame.ports)
      · obtain ⟨node, hnode⟩ := Option.isSome_iff_exists.mp hthere
        exact h.linked hport hnull hnode (htype node hnode (hanswer hok)) hmoved hmaps

/-- **A set that fails** leaves the ids and the lists, when the ingress maps are taken. -/
theorem mapOnPortSetInternal_failed (hingress : map_id = .null → MapLetGo env port_id t db →
      IngressTaken env port_id t db)
    (hfail : (mapOnPortSetInternal env port_id map_id (some t) db).1 ≠ .success) :
    (mapOnPortSetInternal env port_id map_id (some t) db).2.maps = db.maps ∧
    (mapOnPortSetInternal env port_id map_id (some t) db).2.ports = db.ports := by
  cases hport : db.ports port_id with
  | none => simp [mapOnPortSetInternal, hport]
  | some maps_id =>
    by_cases hnull : map_id = .null
    · subst hnull
      rw [mapOnPortSetInternal_null env hport] at hfail ⊢
      rcases mapPortRemove_cases env t hport with ⟨-, -, hsame⟩ | ⟨hgone, -, -⟩
      · exact ⟨hsame.maps, hsame.ports⟩
      · exact absurd (mapPortRemove_rc env hport hgone (hingress rfl hgone)) hfail
    simp only [mapOnPortSetInternal, hport, if_neg hnull] at hfail ⊢
    split
    · exact ⟨rfl, rfl⟩
    rename_i hother
    rw [if_neg hother] at hfail
    rcases @mapPortAdd_cases env _ map_id _ t _ hport with ⟨-, hsame, -⟩ | ⟨hok, -⟩
    · exact ⟨hsame.maps, hsame.ports⟩
    · exact absurd hok hfail

end Sets

/-! ## Maps -/

section Maps

variable (lim : MapLimits) (env : MapEnv)

theorem MapsBound.created (h : MapsBound db) {node}
    (hnone : db.maps map_id = none) (htype : map_id.type = .qosMap) (hports : node.ports = []) :
    MapsBound (db.setMap map_id (some node)) := by
  have hother : ∀ p t, db.mapsId p t ≠ .null → db.mapsId p t ≠ map_id := by
    intro p t hne heq
    obtain ⟨old, hold, -⟩ := h.named p t hne
    rw [heq, hnone] at hold
    cases hold
  refine ⟨fun p t hne => ?_, ?_, fun o ho => ?_⟩
  · obtain ⟨old, hold, hold'⟩ := h.named p t hne
    exact ⟨old, (if_neg (hother p t hne)).trans hold, hold'⟩
  · have hlists : (db.setMap map_id (some node)).portsOf = db.portsOf := by
      funext o
      simp only [portsOf, setMap_maps]
      split
      next ho =>
        rw [ho, hnone]
        exact hports
      · rfl
    rw [hlists]
    exact h.lists
  · rw [setMap_maps] at ho
    split at ho
    next heq =>
      rw [heq]
      exact htype
    · exact h.typed o ho

theorem MapsBound.removed (h : MapsBound db) (hports : db.portsOf map_id = []) :
    MapsBound (db.setMap map_id none) := by
  refine ⟨fun p t hne => ?_, ?_, fun o ho => ?_⟩
  · obtain ⟨old, hold, hold'⟩ := h.named p t hne
    refine ⟨old, (if_neg fun heq => ?_).trans hold, hold'⟩
    have hmem := (h.lists.mem map_id (p, t)).mpr ((boundTo_eq_some hne).trans (congrArg some heq))
    rw [hports] at hmem
    cases hmem
  · have hlists : (db.setMap map_id none).portsOf = db.portsOf := by
      funext o
      simp only [portsOf, setMap_maps]
      split
      next ho =>
        rw [ho]
        exact hports.symm
      · rfl
    rw [hlists]
    exact h.lists
  · rw [setMap_maps] at ho
    split at ho
    · cases ho
    · exact h.typed o ho

theorem mapCreate_bound {attr_list}
    (h : MapsBound db) : MapsBound (mapCreate lim env attr_list db).2 := by
  have hcall : ∀ (db : MapDb) c, BindingsSame db (db.call env c).2 := fun db c =>
    .of_eq (call_maps db env c) (call_ports db env c)
  simp only [mapCreate]
  split
  · exact h
  split
  · exact h
  generalize (if (mapParseUpdateAttributes lim env .create attr_list
    QosMap.zero).node.map_to_value = none then _ else _) = listed
  split
  · exact h
  have hcreated := h.congr (hcall db (.mapCreate listed.2.map_type listed.2.map_to_value))
  generalize db.call _ _ = created at hcreated ⊢
  split
  · exact hcreated
  have hinserted := hcreated.congr (hcall created.2 (.mapInsert (uoidCreate .qosMap env.hw_map_id)))
  generalize created.2.call _ _ = inserted at hinserted ⊢
  split
  · exact hinserted.congr (hcall inserted.2 _)
  rename_i hok
  refine hinserted.created ?_ rfl rfl
  have hnot := (not_or.mp hok).2
  simpa using hnot

theorem mapRemove_bound {map_id} (h : MapsBound db) : MapsBound (mapRemove env map_id db).2 := by
  have hcall : BindingsSame db (db.call env (.mapRemove map_id)).2 :=
    .of_eq (call_maps db env _) (call_ports db env _)
  simp only [mapRemove]
  split
  · exact h
  split
  · exact h
  rename_i node hnode
  split
  · exact h
  rename_i hports
  split
  · exact h.congr hcall
  refine (h.congr hcall).removed ?_
  rw [hcall.portsOf, portsOf, hnode]
  exact not_not.mp hports

theorem BindingsSame.setTable {node} (hnode : db.maps map_id = some node) (table) :
    BindingsSame db (db.setMap map_id (some { node with map_to_value := table })) := by
  refine ⟨fun _ _ => rfl, fun o => ?_⟩
  rw [setMap_maps]
  split
  next ho =>
    rw [ho, hnode]
    rfl
  · rfl

theorem mapPortListUpdate_ports (map_id) (map_type)
    (ports : List (Oid × QosMapType)) :
    ∀ db : MapDb, (mapPortListUpdate env map_id map_type ports db).2.ports = db.ports := by
  induction ports with
  | nil => exact fun _ => rfl
  | cons glue rest ih =>
    intro db
    simp only [mapPortListUpdate]
    split
    · exact call_ports db env _
    · exact (ih _).trans (call_ports db env _)

theorem mapAttributeSet_same {map_id} {attr}
    {db} : BindingsSame db (mapAttributeSet lim env map_id attr db).db := by
  have hcall : ∀ (db : MapDb) c, BindingsSame db (db.call env c).2 := fun db c =>
    .of_eq (call_maps db env c) (call_ports db env c)
  simp only [mapAttributeSet]
  split
  · exact .refl db
  split
  · exact .refl db
  rename_i exist hexist
  generalize mapParseUpdateAttributes _ _ _ _ _ = parsed
  generalize hwritten : (if exist.map_to_value.isSome = true then _ else db) = written
  have hsame : BindingsSame db written := by
    rw [← hwritten]
    split
    · exact .setTable hexist _
    · exact .refl db
  split
  · exact hsame
  have hset := hsame.trans (hcall written
    (.mapAttrSet map_id parsed.node.map_type parsed.node.map_to_value))
  have hmaps := call_maps written env (.mapAttrSet map_id parsed.node.map_type parsed.node.map_to_value)
  have hports := call_ports written env
    (.mapAttrSet map_id parsed.node.map_type parsed.node.map_to_value)
  generalize written.call _ _ = set at hset hmaps hports ⊢
  split
  · exact hset
  have hthere : (set.2.maps map_id).isSome = true := by
    rw [hset.isSome, hexist]
    rfl
  obtain ⟨node, hnode⟩ := Option.isSome_iff_exists.mp hthere
  have hnode' : exist.map_type = node.map_type ∧ exist.ports = node.ports := by
    have h := hset.nodes map_id
    rw [hnode, hexist] at h
    have h := Option.some.inj h
    exact ⟨(congrArg Prod.fst h).symm, (congrArg Prod.snd h).symm⟩
  have hstored : BindingsSame db (set.2.setMap map_id
      (some { exist with map_to_value := parsed.node.map_to_value })) := by
    refine hset.trans ⟨fun _ _ => rfl, fun o => ?_⟩
    rw [setMap_maps]
    split
    next ho => rw [ho, hnode, Option.map_some, Option.map_some, hnode'.1, hnode'.2]
    · rfl
  split
  · exact hstored
  · exact hstored.trans
      (.of_eq (mapPortListUpdate_maps env _ _ _ _) (mapPortListUpdate_ports env _ _ _ _))

end Maps

/-! ## The configuration of a port -/

/-- A policer of a port was let go of before another one was refused: the first one goes on again, and the
failure is forgotten. -/
def PolicerForgotten (env : PolicerEnv) (port_id : Oid) (db : PolicerDb) : Prop :=
  (portRemovePolicers env port_id db).taken = true ∧ (portRemovePolicers env port_id db).rc ≠ .success

section Walks

variable {port_id : Oid}

variable (env : MapEnv)

theorem mapsId_of_none (hport : db.ports port_id = none) (t) :
    db.mapsId port_id t = .null := by
  simp only [mapsId, hport, Option.elim_none]

theorem portTakeMap_bound {t} (h : MapsBound db) :
    MapsBound (portTakeMap env port_id t db).2 := by
  refine mapOnPortSetInternal_bound env h fun node hnode => ?_
  rw [h.null_none] at hnode
  cases hnode

theorem takesPortMaps :
    TakesSlots .success .null (fun db => mapsId db port_id) (portTakeMap env port_id)
      (fun db => (db.ports port_id).isSome = true) := by
  refine .of_step fun t db hthere _ => ?_
  obtain ⟨maps_id, hport⟩ := Option.isSome_iff_exists.mp hthere
  rw [show portTakeMap env port_id t db = mapPortRemove env port_id maps_id t db from
    mapOnPortSetInternal_null env hport]
  rcases mapPortRemove_cases env t hport with ⟨-, hfail, hsame⟩ | ⟨-, hmoved, -⟩
  · refine ⟨by rw [hsame.ports]; exact hthere, .inl ⟨hfail, ?_⟩⟩
    funext t'
    simp only [mapsId, hsame.ports]
  refine ⟨by rw [hmoved.ports, if_pos rfl, hport]; rfl, .inr fun t' => ?_⟩
  rw [hmoved.ids hport]
  simp only [Prod.mk.injEq, true_and]

theorem portRemoveMaps_null (hok : (portRemoveMaps env port_id db).rc = .success)
    {t} : (portRemoveMaps env port_id db).state.mapsId port_id t = .null := by
  cases hport : db.ports port_id with
  | none =>
    have hsame : (portRemoveMaps env port_id db).state = db :=
      takeEach_of_empty fun t' _ => mapsId_of_none hport t'
    rw [hsame]
    exact mapsId_of_none hport t
  | some maps_id =>
    have hwalk : WalkLeaves .success .null (fun db => mapsId db port_id) (portTakeMap env port_id)
        (fun db => (db.ports port_id).isSome = true) QosMapType.all db (portRemoveMaps env port_id db) :=
      takeEach_spec (takesPortMaps env) mapTypes_nodup (by rw [hport]; rfl)
    refine hwalk.emptied t ?_
    rw [hwalk.all hok]
    exact mem_mapTypes

theorem portRemoveMaps_bound (h : MapsBound db) : MapsBound (portRemoveMaps env port_id db).state ∧
    TablesFrom db (portRemoveMaps env port_id db).state := by
  refine takeEach_keeps (P := fun db' => MapsBound db' ∧ TablesFrom db db')
    (fun t db' h' _ => ⟨portTakeMap_bound env h'.1, ?_⟩) ⟨h, .of_maps rfl⟩
  exact h'.2.trans (mapOnPortSetInternal_tables env)

/-- The maps that the port had go on again: each of them is of its type still. -/
theorem portRevertMaps_bound (types) (h : MapsBound db)
    (h' : MapsBound db') (hfrom : TablesFrom db db') :
    MapsBound (portRevertMaps env port_id (mapsId db port_id) types db') := by
  refine (giveEach_keeps (P := fun s => MapsBound s ∧ TablesFrom db s) (fun t s hs hhad => ?_)
    ⟨h', hfrom⟩).1
  refine ⟨mapOnPortSetInternal_bound env hs.1 fun node hnode _ => ?_,
    hs.2.trans (mapOnPortSetInternal_tables env)⟩
  obtain ⟨old, hold, htype, -⟩ := hs.2 _ node hnode
  obtain ⟨named, hnamed, htype'⟩ := h.named _ t hhad
  rw [hold] at hnamed
  cases hnamed
  exact htype.trans htype'

end Walks

section Configs

variable (env : PortEnv) {port_id : Oid} {db : PortDb}

/-- **The configuration of a port goes**, or what went of it comes back. -/
theorem portRemoveConfigs_bound (h : MapsBound db.maps) :
    MapsBound (portRemoveConfigs env port_id db).2.maps := by
  obtain ⟨hmaps, htables⟩ := @portRemoveMaps_bound db.maps port_id env.maps h
  have htaken : MapsBound (portTakeConfigs env port_id db).db.maps ∧
      TablesFrom db.maps (portTakeConfigs env port_id db).db.maps := by
    simp only [portTakeConfigs]
    split
    · exact ⟨h, .of_maps rfl⟩
    split
    · exact ⟨hmaps, htables⟩
    · exact ⟨hmaps, htables⟩
  simp only [portRemoveConfigs]
  split
  · simp only [portRevertConfigs]
    split
    · exact portRevertMaps_bound _ _ h htaken.1 htaken.2
    · exact htaken.1
  · exact htaken.1

theorem portRemoveConfigs_null (hok : (portRemoveConfigs env port_id db).1 = .success)
    (hfits : PolicerForgotten env.policers port_id db.policers →
      ∀ t, db.maps.mapsId port_id t = .null) (t) :
    (portRemoveConfigs env port_id db).2.maps.mapsId port_id t = .null := by
  simp only [portRemoveConfigs] at hok ⊢
  split at hok
  · -- The failure was forgotten, so that there was no map to put back.
    rename_i hfail
    rw [if_pos hfail]
    generalize hat : portTakeConfigs _ _ _ = at_ at hok hfail ⊢
    have hremoved : at_.policer_removed = true := by
      by_contra hnot
      simp only [portRevertConfigs, if_neg hnot] at hok
      exact hfail hok
    have hlast : PolicerForgotten env.policers port_id db.policers ∧
        at_.db.maps = (portRemoveMaps env.maps port_id db.maps).state := by
      simp only [portTakeConfigs] at hat
      split at hat
      · subst hat
        cases hremoved
      split at hat
      · subst hat
        cases hremoved
      · subst hat
        exact ⟨⟨hremoved, hfail⟩, rfl⟩
    have hnull := hfits hlast.1
    have hstate : at_.db.maps = db.maps := hlast.2.trans (takeEach_of_empty fun t _ => hnull t)
    have hback : ∀ types, portRevertMaps env.back_maps port_id (mapsId db.maps port_id) types
        at_.db.maps = db.maps := fun types =>
      (giveEach_of_empty fun t _ => hnull t).trans hstate
    simp only [portRevertConfigs]
    split
    · rw [hback]
      exact hnull t
    · rw [hstate]
      exact hnull t
  next hgood =>
    rw [if_neg hgood]
    have hgood := not_not.mp hgood
    simp only [portTakeConfigs] at hgood ⊢
    split at hgood
    next hfail => exact absurd hgood hfail
    rename_i hbuffer
    rw [if_neg hbuffer]
    split at hgood
    next hfail => exact absurd hgood hfail
    rename_i hmaps
    rw [if_neg hmaps]
    exact portRemoveMaps_null _ (not_not.mp hmaps)

end Configs

/-! ## Ports -/

section Ports

variable {port_id : Oid} {db : PortDb}

variable (env : PortEnv)

theorem BindingsSame.drop (hnull : ∀ t, db.maps.mapsId port_id t = .null) :
    BindingsSame db.maps (dropPort port_id db).maps := by
  refine ⟨fun p t => ?_, fun o => rfl⟩
  simp only [mapsId, dropPort]
  split
  next hp =>
    rw [hp]
    exact (hnull t).symm
  · rfl

theorem portGlobalDeinit_same (env) (hnull : ∀ t, db.maps.mapsId port_id t = .null) :
    BindingsSame db.maps (portGlobalDeinit env port_id db).2.maps := by
  simp only [portGlobalDeinit]
  split
  · exact .refl _
  split
  · exact .refl _
  split
  · exact .refl _
  · exact .drop hnull

theorem portHandleInitFailure_same {env} (node queues hierarchy : Bool) {maps}
    (hdb : db.maps = maps) (hnull : ∀ t, maps.mapsId port_id t = .null) :
    BindingsSame maps (portHandleInitFailure env port_id node queues hierarchy db).maps := by
  simp only [portHandleInitFailure]
  generalize hleft : (if queues = true then _ else _ : PortDb) = left
  have hmaps : left.maps = maps := by
    rw [← hleft, ← hdb]
    split <;> split <;> rfl
  split
  · have hsame := @portGlobalDeinit_same port_id left env.sched (by rw [hmaps]; exact hnull)
    rw [hmaps] at hsame
    exact hsame
  · rw [hmaps]
    exact .refl _

/-- The node of a port that is not there names no map, and neither does the new one. -/
theorem portGlobalInit_same {env} (hport : db.maps.ports port_id = none) :
    BindingsSame db.maps (portGlobalInit env port_id db).2.maps ∧
    ∀ t, (portGlobalInit env port_id db).2.maps.mapsId port_id t = .null := by
  have hnone : ∀ db' : PortDb, db'.maps = db.maps →
      BindingsSame db.maps db'.maps ∧ ∀ t, db'.maps.mapsId port_id t = .null := by
    intro db' hmaps
    rw [hmaps]
    exact ⟨.refl _, mapsId_of_none hport⟩
  have hput : ∀ db' : PortDb, db'.maps = db.maps →
      BindingsSame db.maps (putPort port_id db').maps ∧
      ∀ t, (putPort port_id db').maps.mapsId port_id t = .null := by
    intro db' hmaps
    have hnull : ∀ t, (putPort port_id db').maps.mapsId port_id t = .null := fun t => by
      simp [mapsId, putPort]
    refine ⟨⟨fun p t => ?_, fun o => ?_⟩, hnull⟩
    · by_cases hp : p = port_id
      · rw [hp, hnull, mapsId_of_none hport]
      · simp [mapsId, putPort, hp, hmaps]
    · show ((db'.maps.setMapsId port_id _).maps o).map _ = _
      rw [setMapsId_maps, hmaps]
  have hlists : ∀ b : Bool, ∀ db₁ : PortDb, db₁.maps = db.maps →
      (if b = true then PortDb.onSched (fun sched => sched.call env (.portGroupLists port_id)) db₁
        else (.success, db₁)).2.maps = db.maps := by
    intro b db₁ hmaps
    split <;> exact hmaps
  simp only [portGlobalInit]
  split
  · exact hnone _ rfl
  split
  · exact hnone _ rfl
  have hlists := hlists env.is_hierarchy_qos_supported (PortDb.onSched (fun sched => sched.call env
    (.portInit port_id)) (PortDb.onSched (fun sched => sched.call env .portAlloc) db).2).2 rfl
  generalize (if env.is_hierarchy_qos_supported = true then _ else _ : Status × PortDb) = lists
    at hlists ⊢
  split
  · exact hnone _ hlists
  split
  · exact hnone _ hlists
  · exact hput _ hlists

theorem portInit_same {env} :
    BindingsSame db.maps ((portInit env port_id db).elim db Prod.snd).maps := by
  simp only [portInit]
  split
  · exact .refl _
  rename_i hnode
  have hport : db.maps.ports port_id = none := by
    rw [PortDb.hasNode, Bool.not_eq_true, Option.isSome_eq_false_iff, Option.isNone_iff_eq_none]
      at hnode
    exact hnode
  obtain ⟨hsame, hnull⟩ := portGlobalInit_same hport
  generalize portGlobalInit _ _ _ = node at hsame hnull ⊢
  split
  · rw [Option.elim_some]
    exact hsame.trans (portHandleInitFailure_same _ _ _ rfl hnull)
  split
  · exact .refl _
  split
  · rw [Option.elim_some]
    exact hsame.trans (portHandleInitFailure_same _ _ _ rfl hnull)
  split
  · rw [Option.elim_some]
    exact hsame.trans (portHandleInitFailure_same _ _ _ rfl hnull)
  · exact hsame

theorem portPoolsRemove_left (port_pools) : ∀ db : PortDb,
    (portPoolsRemove env port_id port_pools db).2.maps = db.maps ∧
    (portPoolsRemove env port_id port_pools db).2.policers = db.policers := by
  have hone : ∀ (port_pool_id : Oid) (db : PortDb),
      (portRemovePortPool env port_id port_pool_id db).2.maps = db.maps ∧
      (portRemovePortPool env port_id port_pool_id db).2.policers = db.policers := by
    intro port_pool_id db
    simp only [portRemovePortPool]
    split
    · exact ⟨rfl, rfl⟩
    split <;> split <;> exact ⟨rfl, rfl⟩
  induction port_pools with
  | nil => exact fun _ => ⟨rfl, rfl⟩
  | cons port_pool_id rest ih =>
    intro db
    simp only [portPoolsRemove]
    split
    · exact hone port_pool_id db
    · obtain ⟨hmaps, hpolicers⟩ := ih (portRemovePortPool env port_id port_pool_id db).2
      exact ⟨hmaps.trans (hone port_pool_id db).1, hpolicers.trans (hone port_pool_id db).2⟩

theorem portDeinitWred_left : (portDeinitWred env port_id db).2.maps = db.maps ∧
    (portDeinitWred env port_id db).2.policers = db.policers := by
  simp only [portDeinitWred]
  split
  · exact ⟨rfl, rfl⟩
  · exact portPoolsRemove_left env _ db

theorem nonDefaultConfigsRemove_bound (h : MapsBound db.maps) :
    MapsBound (nonDefaultConfigsRemove env port_id db).2.maps ∧
    ((nonDefaultConfigsRemove env port_id db).1 = .success →
      (PolicerForgotten env.policers port_id db.policers → ∀ t, db.maps.mapsId port_id t = .null) →
      ∀ t, (nonDefaultConfigsRemove env port_id db).2.maps.mapsId port_id t = .null) := by
  have hbound := @portRemoveConfigs_bound env port_id db h
  simp only [nonDefaultConfigsRemove]
  split
  · exact ⟨h, fun hok => by cases hok⟩
  split
  next hfail => exact ⟨hbound, fun hok => absurd hok hfail⟩
  next hok => exact ⟨hbound, fun _ hfits => portRemoveConfigs_null env (not_not.mp hok) hfits⟩

/-- **A deinit** keeps the bindings, unless it forgets a failure and gives back a port with maps. -/
theorem portDeinit_bound (h : MapsBound db.maps)
    (hfits : PolicerForgotten env.policers port_id db.policers →
      ∀ t, db.maps.mapsId port_id t = .null) :
    MapsBound (portDeinit env port_id db).2.maps := by
  simp only [portDeinit]
  split
  · exact h
  split
  · exact h
  obtain ⟨hmaps, hpolicers⟩ := @portDeinitWred_left port_id db env
  generalize portDeinitWred _ _ _ = wred at hmaps hpolicers ⊢
  have hwred : MapsBound wred.2.maps := by
    rw [hmaps]
    exact h
  split
  · exact hwred
  obtain ⟨hbound, hnull⟩ := @nonDefaultConfigsRemove_bound port_id wred.2 env hwred
  rw [hmaps, hpolicers] at hnull
  generalize nonDefaultConfigsRemove _ _ _ = configs at hbound hnull ⊢
  split
  · exact hbound
  rename_i hok
  have hnull := hnull (not_not.mp hok) hfits
  split
  · exact hbound
  split
  · exact hbound
  have hsame := @portGlobalDeinit_same port_id (PortDb.onSched (portQueuesDeinit env.sched port_id)
    (PortDb.onSched (portDestroyAllPg env.sched port_id) configs.2).2).2 env.sched hnull
  exact hbound.congr hsame

end Ports

/-! ## Runs -/

/-- A step: a call for a map or for the maps of a port, what is done to a port as a whole, and anything
that leaves the maps alone. -/
inductive MapBindLabel where
  | map (label : MapLabel)
  | portInit (env : PortInitEnv) (port_id : Oid)
  | removeConfigs (env : PortEnv) (port_id : Oid)
  | portDeinit (env : PortEnv) (port_id : Oid)
  | others (db : PortDb)

/-- An init that leaves a table of the default hierarchy has no state to go on in. -/
def mapBindStep (lim : MapLimits) : MapBindLabel → PortDb → PortDb
  | .map label, db => { db with maps := mapStep lim label db.maps }
  | .portInit env port_id, db => (portInit env port_id db).elim db Prod.snd
  | .removeConfigs env port_id, db => (nonDefaultConfigsRemove env port_id db).2
  | .portDeinit env port_id, db => (portDeinit env port_id db).2
  | .others db', db => { db' with maps := db.maps }

/-- The sets keep their promise, and no deinit of a port with maps forgets that a policer stayed. -/
def MapBindFits : MapBindLabel → PortDb → Prop
  | .map (.onPort env port_id map_id map_type), db =>
    ∀ t, map_type = some t → MapSetFits env port_id map_id t db.maps
  | .portDeinit env port_id, db =>
    PolicerForgotten env.policers port_id db.policers → ∀ t, db.maps.mapsId port_id t = .null
  | _, _ => True

/-- **The maps of ports are exact.** -/
structure MapBindingsExact (db : MapDb) : Prop where
  /-- What a port names is a map of the type. -/
  named : ∀ port_id t, db.mapsId port_id t ≠ .null →
    ∃ node, db.maps (db.mapsId port_id t) = some node ∧ node.map_type = t
  /-- The port is on the list of this map once, and on no other. -/
  listed : ∀ port_id t map_id node, db.maps map_id = some node →
    node.ports.count (port_id, t) = if db.mapsId port_id t = map_id then 1 else 0
  failed : ∀ env port_id map_id t, MapSetFits env port_id map_id t db →
    (mapOnPortSetInternal env port_id map_id (some t) db).1 ≠ .success →
    (mapOnPortSetInternal env port_id map_id (some t) db).2.maps = db.maps ∧
    (mapOnPortSetInternal env port_id map_id (some t) db).2.ports = db.ports
  /-- A map that the NPU lets go can be removed when no port names it. -/
  removable : ∀ env map_id, (db.maps map_id).isSome = true →
    env.outside db.outside_log (.mapRemove map_id) = .success →
    ((mapRemove env map_id db).1 = .success ↔ ∀ port_id t, db.mapsId port_id t ≠ map_id)

theorem mapBindStep_bound {lim} {label} {db}
    (h : MapsBound db.maps) (hfits : MapBindFits label db) :
    MapsBound (mapBindStep lim label db).maps := by
  cases label with
  | map label =>
    cases label with
    | create env attr_list => exact mapCreate_bound lim env h
    | remove env map_id => exact mapRemove_bound env h
    | set env map_id attr => exact h.congr (mapAttributeSet_same lim env)
    | onPort env port_id map_id map_type =>
      cases map_type with
      | none => exact h
      | some t => exact mapOnPortSetInternal_bound env h (hfits t rfl).type
  | portInit env port_id => exact h.congr portInit_same
  | removeConfigs env port_id => exact (nonDefaultConfigsRemove_bound env h).1
  | portDeinit env port_id => exact portDeinit_bound env h hfits
  | others db' => exact h

theorem mapRemove_ok {env} {node}
    (htype : map_id.type = .qosMap) (hnode : db.maps map_id = some node)
    (hnpu : env.outside db.outside_log (.mapRemove map_id) = .success) :
    (mapRemove env map_id db).1 = .success ↔ node.ports = [] := by
  have hcall : (db.call env (.mapRemove map_id)).1 = .success := hnpu
  simp only [mapRemove, htype, ne_eq, not_true_eq_false, if_false, hnode, hcall]
  by_cases hports : node.ports = []
  · simp [hports]
  · simp [hports]

theorem MapsBound.exact (h : MapsBound db) : MapBindingsExact db := by
  have hmem : ∀ port_id t map_id node, db.maps map_id = some node →
      ((port_id, t) ∈ node.ports ↔ db.mapsId port_id t = map_id) := by
    intro p t map_id node hnode
    have hlist : db.portsOf map_id = node.ports := by
      rw [portsOf, hnode]
      rfl
    rw [← hlist, h.lists.mem, boundTo]
    split
    next hnull =>
      refine iff_of_false (by simp) fun heq => ?_
      rw [← heq, show db.mapsId p t = Oid.null from hnull, h.null_none] at hnode
      cases hnode
    · exact Option.some_inj
  refine ⟨h.named, fun p t map_id node hnode => ?_, fun env p map_id t hfits hfail => ?_,
    fun env map_id hthere hnpu => ?_⟩
  · have hnodup : node.ports.Nodup := by
      have hlist := h.lists.nodup map_id
      rwa [portsOf, hnode] at hlist
    rw [hnodup.count]
    exact if_congr (hmem p t map_id node hnode) rfl rfl
  · exact mapOnPortSetInternal_failed env hfits.ingress hfail
  · obtain ⟨node, hnode⟩ := Option.isSome_iff_exists.mp hthere
    rw [mapRemove_ok (h.typed _ hthere) hnode hnpu, List.eq_nil_iff_forall_not_mem]
    constructor
    · exact fun hnone p t heq => hnone (p, t) ((hmem p t map_id node hnode).mpr heq)
    · exact fun hnone glue hin => hnone glue.1 glue.2 ((hmem glue.1 glue.2 map_id node hnode).mp hin)

/-- **The maps of ports are exact** in every state that is reached under the condition. -/
theorem mapBindingsExact_of_run (lim : MapLimits) {start db : PortDb} (hstart : start.maps = .initial)
    (hrun : Run (mapBindStep lim) MapBindFits start db) : MapBindingsExact db.maps := by
  refine MapsBound.exact (hrun.induct (P := fun db => MapsBound db.maps) (fun label s h hfits => ?_) ?_)
  · exact mapBindStep_bound h hfits
  · rw [hstart]
    exact .initial

/-! ## A map of another type -/

def PortDb.initial : PortDb := ⟨SchedDb.initial .null, .initial, .initial, fun _ => []⟩

def dot1pMapId : Oid := ⟨.qosMap, 1⟩

def createDot1pMap : MapBindLabel := .map (.create (.good 1) [.type (some .dot1pToTc)])

def initBarePort : MapBindLabel :=
  .portInit
    { sched := { SchedEnv.good with is_hierarchy_qos_supported := false, num_pg := 0 }
      default_hqos := ⟨[]⟩
      default_cpu_hqos := ⟨[]⟩
      is_cpu_port := fun _ => false
      separate_queues := fun _ => false
      max_uc_queues := fun _ => 0
      max_mc_queues := fun _ => 0
      max_queues := fun _ => 0 }
    ⟨.port, 1⟩

def setDot1pMap (t : QosMapType) : MapBindLabel := .map (.onPort (.good 1) ⟨.port, 1⟩ dot1pMapId (some t))

def dot1pOn (lim : MapLimits) (t : QosMapType) : PortDb :=
  mapBindStep lim (setDot1pMap t) (mapBindStep lim initBarePort (mapBindStep lim createDot1pMap .initial))

theorem mapBindingsExact_of_run_dot1p : MapBindingsExact (dot1pOn .small .dot1pToTc).maps := by
  have hset : ∀ db : PortDb, db.maps = (mapBindStep .small initBarePort
      (mapBindStep .small createDot1pMap .initial)).maps → MapBindFits (setDot1pMap .dot1pToTc) db := by
    intro db hdb t ht
    cases ht
    rw [hdb]
    refine ⟨fun node hnode _ => ?_, fun hnull => ?_⟩
    · cases hnode
      rfl
    · cases hnull
  exact mapBindingsExact_of_run _ rfl
    (.snoc _ (.snoc initBarePort (.one _ trivial) trivial) (hset _ rfl))

/-- The type of the map is not looked at: it is taken for another type. -/
theorem not_mapBindingsExact :
    ¬ ∀ (lim : MapLimits) (start db : PortDb), start.maps = .initial →
      Run (mapBindStep lim) (fun _ _ => True) start db → MapBindingsExact db.maps := by
  intro h
  have hexact := h .small .initial (dot1pOn .small .dscpToTc) rfl
    (.snoc _ (.snoc initBarePort (.one createDot1pMap trivial) trivial) trivial)
  obtain ⟨node, hnode, htype⟩ := hexact.named ⟨.port, 1⟩ .dscpToTc (by decide)
  cases hnode
  cases htype

end OpxSai
