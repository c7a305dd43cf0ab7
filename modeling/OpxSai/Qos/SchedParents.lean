import OpxSai.Lib.Run
import OpxSai.Qos.SchedCreate

/-!
# The parents of groups and queues

Groups and queues are created, removed and moved to other parents. Which parent is on which level, and on
which port, is left to the NPU: where each parent that is named fits, the hierarchy is a forest.

* `hqosRun_isForest` — **main result**: so it is after every run the parents of which fit.
-/

namespace OpxSai

open SchedDb
variable {db : SchedDb}

/-! ## Moves -/

section Move

variable {env : SchedEnv} (hupd : ChildUpdates env)

include hupd

theorem call_move (h : HqosInv db) {o parent_id} {v}
    (hv : hqosView db.tree o = some v) (htype : o.type = .schedulerGroup ∨ o.type = .queue)
    (hfits : ParentFits (hqosView db.tree) (hasPort db) v.port_id v.level parent_id) {left}
    (hleft : left = (db.call env (.childNodesUpdate v.parent_id o false)).2) :
    HqosInv (left.call env (.childNodesUpdate parent_id o true)).2 ∧
    hqosView (left.call env (.childNodesUpdate parent_id o true)).2.tree o =
      some { v with parent_id := parent_id } := by
  obtain ⟨hunlinked, hv'⟩ := call_unlink hupd h hv htype
  have hplace := call_childs_place hupd db v.parent_id o false
  have hport := (call_childs_frame hupd db v.parent_id o false).port
  rw [← hleft] at hunlinked hv' hplace hport
  have hne : parent_id ≠ o := hfits.ne htype fun m hm => by
    rw [Option.some.inj (hm.symm.trans hv)]
    exact lt_irrefl _
  exact call_link hupd (v := { v with parent_id := .null }) hunlinked hv' (fun h => nomatch h) hne
    (hfits.of_place (fun o => congrFun hplace o) hport)

theorem schedGroupParentSet_inv (h : HqosInv db) {sg_id oid} (hlive : isFreed db sg_id = false)
    (hfits : ∀ v, hqosView db.tree sg_id = some v →
      ParentFits (hqosView db.tree) (hasPort db) v.port_id v.level oid) :
    HqosInv (schedGroupAttributeSet env sg_id (.parentNode oid) db).2 := by
  simp only [schedGroupAttributeSet]
  split
  · exact h
  rename_i htype
  replace htype := not_not.mp htype
  split
  · exact h
  rename_i node hnode
  have hv := hqosView_group htype hnode hlive
  specialize hfits _ hv
  split
  · exact h
  split
  · exact h
  have hmoved := HqosKept.call db env (.schedGroupModifyParent sg_id oid) fun _ _ _ => nofun
  simp only [schedGroupAttributeApply, schedGroupModifyParent]
  by_cases hbad : (db.call env (.schedGroupModifyParent sg_id oid)).1 ≠ .success
  · rw [if_pos hbad, if_pos hbad]
    exact h.kept hmoved
  rw [if_neg hbad]
  generalize (db.call _ _).2 = db₁ at hmoved ⊢
  have hv₁ := (hmoved.view sg_id).trans hv
  rw [if_neg (not_not.mpr (call_childs hupd db₁ node.parent_id sg_id false).1)]
  obtain ⟨hlinked, hv₂⟩ := call_move hupd (h.kept hmoved) hv₁ (.inl htype)
    (hfits.of_place (fun o => congrArg _ (hmoved.view o)) hmoved.port) rfl
  generalize (db₁.call _ _).2 = left at hlinked hv₂ ⊢
  rw [if_neg (not_not.mpr (call_childs hupd left oid sg_id true).1)]
  refine hlinked.kept (.setSchedGroup fun n hn => ⟨?_, rfl⟩)
  -- the parent that is stored is the one that it has
  unfold hqosView at hv₂
  rw [htype] at hv₂
  have hview : n.view = some { (⟨node.port_id, node.parent_id, node.hierarchy_level, node.child_count,
      node.childs⟩ : HqosView) with parent_id := oid } := by
    rw [← hv₂]
    show _ = Option.bind ((left.call env (.childNodesUpdate oid sg_id true)).2.sched_groups sg_id) _
    rw [hn]
    rfl
  exact (n.view_parent oid).trans (by rw [hview]; rfl)

theorem queueParentSet_inv (h : HqosInv db) {queue_id oid} (hlive : isFreed db queue_id = false)
    (hfits : ∀ v, hqosView db.tree queue_id = some v →
      ParentFits (hqosView db.tree) (hasPort db) v.port_id v.level oid) :
    HqosInv (queueAttributeSet env queue_id (.parentSchedulerNode oid) db).2 := by
  simp only [queueAttributeSet]
  split
  · exact h
  rename_i htype
  replace htype := not_not.mp htype
  split
  · exact h
  rename_i node hnode
  have hv := hqosView_queue htype hnode hlive
  specialize hfits _ hv
  split
  · exact h
  split
  · exact h
  simp only [queueAttributeApply, queueModifyParent]
  have hmoved : HqosKept db (if oid ≠ .null then db.call env (.queueModifyParent queue_id oid)
      else db.call env (.queueRemove queue_id)).2 := by
    split
    · exact .call db env _ fun _ _ _ => nofun
    · exact .call db env _ fun _ _ _ => nofun
  generalize (if oid ≠ .null then db.call env (.queueModifyParent queue_id oid)
    else db.call env (.queueRemove queue_id)) = moved at hmoved ⊢
  by_cases hbad : moved.1 ≠ .success
  · rw [if_pos hbad, if_pos hbad]
    exact h.kept hmoved
  rw [if_neg hbad]
  have hv₁ := (hmoved.view queue_id).trans hv
  have hunlinked := call_unlink hupd (h.kept hmoved) hv₁ (.inr htype)
  have hlinked := call_move hupd (h.kept hmoved) hv₁ (.inr htype)
    (hfits.of_place (fun o => congrArg _ (hmoved.view o)) hmoved.port) rfl
  have hok := (call_childs hupd moved.2 node.parent_sched_group_id queue_id false).1
  rw [if_ok hok]
  simp only at hunlinked hlinked
  generalize moved.2.call _ _ = left at hunlinked hlinked hok ⊢
  -- the queue has the parent that is stored, in both cases
  have hend : ∀ db₂, HqosInv db₂ ∧ hqosView db₂.tree queue_id =
      some ⟨node.port_id, oid, ⊤, 0, []⟩ →
      HqosInv (setQueue queue_id (fun q => queueAttrStore q (.parentSchedulerNode oid)) db₂) := by
    rintro db₂ ⟨hinv, hv₂⟩
    refine hinv.kept (.setQueue fun n hn => ⟨?_, rfl⟩)
    unfold hqosView at hv₂
    rw [htype] at hv₂
    have hview : n.view = some ⟨node.port_id, oid, ⊤, 0, []⟩ := by
      rw [← hv₂]
      show _ = Option.bind (db₂.qos.queues queue_id) _
      rw [hn]
      rfl
    exact (n.view_parent oid).trans (by rw [hview]; rfl)
  by_cases hnull : oid = .null
  · rw [if_ok hnull, if_ok hok]
    rw [← hnull] at hunlinked
    exact hend left.2 hunlinked
  · rw [if_pos hnull, if_neg (not_not.mpr (call_childs hupd left.2 oid queue_id true).1)]
    exact hend _ hlinked

end Move

/-! ## Runs -/

inductive HqosOp where
  | schedGroupCreate (attr_list : List SchedGroupAttr)
  | schedGroupRemove (sg_id : Oid)
  | schedGroupParentSet (sg_id oid : Oid)
  | queueCreate (attr_list : List QueueAttr)
  | queueRemove (queue_id : Oid)
  | queueParentSet (queue_id oid : Oid)

def hqosStep (c : SchedEnv × HqosOp) (db : SchedDb) : SchedDb :=
  match c.2 with
  | .schedGroupCreate attr_list => (schedGroupCreate c.1 attr_list db).2.2
  | .schedGroupRemove sg_id => (schedGroupRemove c.1 sg_id db).2
  | .schedGroupParentSet sg_id oid => (schedGroupAttributeSet c.1 sg_id (.parentNode oid) db).2
  | .queueCreate attr_list => (queueCreate c.1 attr_list db).2.2
  | .queueRemove queue_id => (queueRemove c.1 queue_id db).2
  | .queueParentSet queue_id oid => (queueAttributeSet c.1 queue_id (.parentSchedulerNode oid) db).2

/-- The condition on a step. The parent that is named is on the port and at a smaller level, and does not
go with the default hierarchy; the node that is named was not given back by a create that failed. -/
def HqosStepFits (env : SchedEnv) (op : HqosOp) (db : SchedDb) : Prop :=
  let fits := ParentFits (hqosView db.tree) (hasPort db)
  match op with
  | .schedGroupCreate attr_list =>
    let node := schedGroupAttrSet attr_list (schedGroupNodeInit env)
    fits node.port_id node.hierarchy_level node.parent_id ∧
      (TakesDown env attr_list db → node.parent_id.type ≠ .schedulerGroup)
  | .schedGroupRemove sg_id => isFreed db sg_id = false
  | .schedGroupParentSet sg_id oid =>
    isFreed db sg_id = false ∧ ∀ v, hqosView db.tree sg_id = some v → fits v.port_id v.level oid
  | .queueCreate attr_list =>
    let node := queueAttrSet attr_list queueNodeInit
    fits node.port_id ⊤ node.parent_sched_group_id
  | .queueRemove queue_id => isFreed db queue_id = false
  | .queueParentSet queue_id oid =>
    isFreed db queue_id = false ∧ ∀ v, hqosView db.tree queue_id = some v → fits v.port_id v.level oid

theorem hqosStep_inv {env} (hupd : ChildUpdates env) {op}
    (h : HqosInv db) (hfits : HqosStepFits env op db) : HqosInv (hqosStep (env, op) db) := by
  cases op with
  | schedGroupCreate attr_list => exact schedGroupCreate_inv hupd h rfl hfits.1 hfits.2
  | schedGroupRemove sg_id => exact (schedGroupRemove_inv hupd h hfits).1
  | schedGroupParentSet sg_id oid => exact schedGroupParentSet_inv hupd h hfits.1 hfits.2
  | queueCreate attr_list => exact queueCreate_inv hupd h rfl hfits
  | queueRemove queue_id => exact (queueRemove_inv hupd h hfits).1
  | queueParentSet queue_id oid => exact queueParentSet_inv hupd h hfits.1 hfits.2

/-- The ports that are there have no groups and no queues, and there are no others. -/
structure HqosEmpty (db : SchedDb) : Prop where
  groups : ∀ o, db.sched_groups o = none
  queues : ∀ o, db.qos.queues o = none
  ports : ∀ o port, db.qos_ports o = some port → port.queues = [] ∧ ∀ l, port.sched_groups l = []

theorem HqosEmpty.view (h : HqosEmpty db) (o : Oid) : hqosView db.tree o = none := by
  unfold hqosView
  split
  · show (db.sched_groups o).bind _ = none
    rw [h.groups]
    rfl
  · show (db.qos.queues o).bind _ = none
    rw [h.queues]
    rfl
  · rfl

theorem HqosEmpty.inv (h : HqosEmpty db) : HqosInv db := by
  have hnode : ∀ o, (hqosView db.tree o).map HqosView.node = none := fun o => by rw [h.view]; rfl
  have hnil : ∀ place, placeLists db place = [] := by
    intro place
    unfold placeLists queuesOf schedGroupsOf
    cases hport : db.qos_ports place.1 with
    | none => split <;> rfl
    | some port =>
      split
      · exact (h.ports _ _ hport).1
      · exact (h.ports _ _ hport).2 _
  refine ⟨⟨⟨?_, ?_, ?_⟩, ?_, ?_⟩, ⟨fun place => ?_, fun place o => ?_⟩⟩
  · exact fun o n p hn => absurd (hn.symm.trans (hnode o)) (by simp)
  · exact fun o n hn => absurd (hn.symm.trans (hnode o)) (by simp)
  · exact fun o n c hn => absurd (hn.symm.trans (hnode o)) (by simp)
  · exact fun o v hv => absurd (hv.symm.trans (h.view o)) (by simp)
  · exact fun o v hv => absurd (hv.symm.trans (h.view o)) (by simp)
  · rw [hnil]
    exact List.nodup_nil
  · rw [hnil]
    unfold hqosPlace
    rw [h.view]
    simp

/-! ## The forest -/

/-- The hierarchy is a forest. The way up from a live node ends, without repetition, at a node without a
parent or below its port; parents are live, on the same port and at a smaller level; and a group counts
the nodes the parent of which it is. -/
structure IsHqosForest (db : SchedDb) : Prop where
  path : ∀ o v, hqosView db.tree o = some v → ∃ path r w,
    PathUp (fun o => (hqosView db.tree o).map HqosView.node) o path ∧ path.Nodup ∧
    path.getLast? = some r ∧ hqosView db.tree r = some w ∧
    (w.parent_id = .null ∨ w.parent_id = v.port_id)
  parent : ∀ o v, hqosView db.tree o = some v →
    ParentFits (hqosView db.tree) (hasPort db) v.port_id v.level v.parent_id
  count : ∀ o v, o.type = .schedulerGroup → hqosView db.tree o = some v →
    v.child_count = Set.ncard {c | ∃ w, hqosView db.tree c = some w ∧ w.parent_id = o}

theorem placeAbove_port {a b} (h : Relation.TransGen placeAbove a b) :
    a.1 = b.1 := by
  induction h with
  | single hab => exact hab.1
  | tail _ hbc ih => exact ih.trans hbc.1

theorem HqosForest.isForest (h : HqosForest db) : IsHqosForest db := by
  have hnode : ∀ {o v}, hqosView db.tree o = some v →
      (hqosView db.tree o).map HqosView.node = some v.node := fun hv => congrArg _ hv
  refine ⟨fun o v hv => ?_, fun o v hv => ?_, fun o v htype hv => ?_⟩
  · obtain ⟨path, hpath, hnodup⟩ := h.forest.path placeAbove_wf (hnode hv)
    obtain ⟨r, n, hlast, hr, hroot⟩ := hpath.last
    obtain ⟨w, hw, hwn⟩ := Option.map_eq_some_iff.mp hr
    refine ⟨path, r, w, hpath, hnodup, hlast, hw, ?_⟩
    have hparent : w.parent_id.type ≠ .schedulerGroup := by
      intro hgroup
      have hsome : n.parent = some w.parent_id := hwn ▸ HqosForestOn.parentGroup_some hgroup
      rw [hroot] at hsome
      cases hsome
    refine (h.root r w hw hparent).imp id fun hport => hport.1.trans ?_
    -- the last node is on the port of the first
    obtain ⟨m, hm, hcase⟩ := h.forest.path_above hpath (hnode hv) r (List.mem_of_getLast? hlast)
    rcases hcase with heq | habove
    · rw [heq, hv] at hw
      cases hw
      rfl
    rw [hnode hw] at hm
    cases hm
    exact placeAbove_port habove
  · by_cases hgroup : v.parent_id.type = .schedulerGroup
    · obtain ⟨n, hn, habove⟩ := h.forest.parent o _ _ (hnode hv)
        (HqosForestOn.parentGroup_some hgroup)
      obtain ⟨m, hm, hmn⟩ := Option.map_eq_some_iff.mp hn
      rw [← hmn] at habove
      exact .inr (.inr ⟨hgroup, m, hm, habove.1, habove.2⟩)
    · exact (h.root o v hv hgroup).imp id .inl
  · rw [h.count o v hv]
    refine (h.forest.card (hnode hv)).trans ?_
    congr 1
    ext c
    constructor
    · rintro ⟨n, hn, hparent⟩
      obtain ⟨w, hw, hwn⟩ := Option.map_eq_some_iff.mp hn
      refine ⟨w, hw, ?_⟩
      rw [← hwn] at hparent
      simp only [HqosView.node, parentGroup] at hparent
      split at hparent
      · exact Option.some.inj hparent
      · cases hparent
    · rintro ⟨w, hw, hparent⟩
      refine ⟨w.node, hnode hw, ?_⟩
      rw [← hparent] at htype ⊢
      exact HqosForestOn.parentGroup_some htype

def onePortDb : SchedDb :=
  { SchedDb.initial ⟨.scheduler, 1⟩ with
    schedulers := fun o => if o = ⟨.scheduler, 1⟩ then some (schedulerNodeInit .good) else none
    qos_ports := fun o =>
      if o = ⟨.port, 1⟩ then
        some ⟨⟨.scheduler, 1⟩, false, [], fun _ => [], []⟩
      else none }

def firstLevelGroup : List SchedGroupAttr := [.portId ⟨.port, 1⟩, .level 0, .parentNode ⟨.port, 1⟩]

def secondLevelGroup (parent_id : Oid) : List SchedGroupAttr :=
  [.portId ⟨.port, 1⟩, .level 1, .parentNode parent_id]

def twoGroupsDb : SchedDb :=
  hqosStep (.good, .schedGroupCreate (secondLevelGroup ⟨.schedulerGroup, 3⟩))
    (hqosStep (.good, .schedGroupCreate firstLevelGroup) onePortDb)

theorem onePortDb_empty : HqosEmpty onePortDb := by
  refine ⟨fun _ => rfl, fun _ => rfl, fun o port hport => ?_⟩
  simp only [onePortDb] at hport
  split at hport
  · cases hport
    exact ⟨rfl, fun _ => rfl⟩
  · cases hport

end OpxSai
