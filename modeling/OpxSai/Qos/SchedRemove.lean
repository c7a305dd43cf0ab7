import OpxSai.Qos.SchedForest

/-!
# Removals and the hierarchy

A removal keeps the invariant of the hierarchy, and leaves no node that is newly given back.
-/

namespace OpxSai

open SchedDb

variable {db : SchedDb} {v : HqosView} {parent_id o sg_id queue_id : Oid} {db' : SchedDb}

/-! ## The update of the children -/

variable (tree : HqosTree) (node : SchedGroup) (child_id : Oid)

structure ChildUpdates (env : SchedEnv) : Prop where
  links : env.child_nodes_update = HqosTree.linkChild
  succeeds : ∀ log p c a, env.outside log (.childNodesUpdate p c a) = .success

theorem SchedGroup.view_parent (parent_id) :
    ({ node with parent_id := parent_id } : SchedGroup).view =
      node.view.map fun v => { v with parent_id := parent_id } := by
  unfold SchedGroup.view
  simp only
  split <;> rfl

theorem QosQueue.view_parent (node : QosQueue) (parent_id : Oid) :
    ({ node with parent_sched_group_id := parent_id } : QosQueue).view =
      node.view.map fun v => { v with parent_id := parent_id } := by
  unfold QosQueue.view
  simp only
  split <;> rfl

theorem hqosView_setParent (parent_id : Oid) (tree : HqosTree) (o : Oid) :
    hqosView (tree.setParent child_id parent_id) o =
      if o = child_id then (hqosView tree o).map fun v => { v with parent_id := parent_id }
      else hqosView tree o := by
  unfold hqosView HqosTree.setParent
  split
  · simp only
    split
    · cases tree.sched_groups o with
      | none => rfl
      | some node => exact node.view_parent _
    · rfl
  · simp only
    split
    · cases tree.queues o with
      | none => rfl
      | some node => exact node.view_parent _
    · rfl
  · split <;> rfl

theorem hqosView_setGroup (sg_id) {f : SchedGroup → SchedGroup} {g : HqosView → HqosView}
    (hf : ∀ node, (f node).view = node.view.map g) (tree) (o) :
    hqosView (tree.setGroup sg_id f) o =
      if o = sg_id ∧ o.type = .schedulerGroup then (hqosView tree o).map g else hqosView tree o := by
  unfold hqosView HqosTree.setGroup
  split
  next htype =>
    simp only [htype, and_true]
    split
    · cases tree.sched_groups o with
      | none => rfl
      | some node => exact hf node
    · rfl
  next htype =>
    rw [if_neg]
    rw [htype]
    simp
  next hgroup hqueue => rw [if_neg fun h => hgroup h.2]

theorem SchedGroup.view_append :
    ({ node with child_count := node.child_count + 1, childs := node.childs ++ [child_id] } :
      SchedGroup).view =
      node.view.map fun m =>
        { m with child_count := m.child_count + 1, childs := m.childs ++ [child_id] } := by
  unfold SchedGroup.view
  simp only
  split <;> rfl

theorem SchedGroup.view_erase :
    ({ node with child_count := node.child_count - 1, childs := node.childs.erase child_id } :
      SchedGroup).view =
      node.view.map fun m =>
        { m with child_count := m.child_count - 1, childs := m.childs.erase child_id } := by
  unfold SchedGroup.view
  simp only
  split <;> rfl

theorem hqosView_link {child_id} (hne : parent_id ≠ child_id) (tree) :
    hqosView (tree.linkChild parent_id child_id true) = linkView parent_id child_id (hqosView tree) := by
  funext o
  unfold HqosTree.linkChild linkView
  rw [if_pos rfl, hqosView_setParent, hqosView_setGroup _ fun node => node.view_append _]
  by_cases hoc : o = child_id
  · rw [if_pos hoc, if_pos hoc, if_neg]
    rintro ⟨hop, -⟩
    exact hne (hop.symm.trans hoc)
  · rw [if_neg hoc, if_neg hoc]

theorem hqosView_unlink {child_id} (hne : parent_id ≠ child_id) (tree) :
    hqosView (tree.linkChild parent_id child_id false) =
      unlinkView parent_id child_id (hqosView tree) := by
  funext o
  unfold HqosTree.linkChild unlinkView
  rw [if_neg (by simp), hqosView_setParent, hqosView_setGroup _ fun node => node.view_erase _]
  by_cases hoc : o = child_id
  · rw [if_pos hoc, if_pos hoc, if_neg]
    rintro ⟨hop, -⟩
    exact hne (hop.symm.trans hoc)
  · rw [if_neg hoc, if_neg hoc]

theorem HqosTree.linkChild_freed (p c) (a : Bool) (o) :
    ((tree.linkChild p c a).sched_groups o).any SchedGroup.freed =
      (tree.sched_groups o).any SchedGroup.freed := by
  cases a with
  | true =>
    simp only [linkChild, setParent, setGroup, if_true]
    cases tree.sched_groups o with
    | none => split <;> split <;> rfl
    | some node => split <;> split <;> rfl
  | false =>
    simp only [linkChild, setParent, setGroup, Bool.false_eq_true, if_false]
    cases tree.sched_groups o with
    | none => split <;> split <;> rfl
    | some node => split <;> split <;> rfl

theorem HqosTree.linkChild_freed_queue (p c) (a : Bool) (o) :
    ((tree.linkChild p c a).queues o).any QosQueue.freed = (tree.queues o).any QosQueue.freed := by
  cases a with
  | true =>
    simp only [linkChild, setParent, setGroup, if_true]
    cases tree.queues o with
    | none => split <;> rfl
    | some node => split <;> rfl
  | false =>
    simp only [linkChild, setParent, setGroup, Bool.false_eq_true, if_false]
    cases tree.queues o with
    | none => split <;> rfl
    | some node => split <;> rfl

/-! ## What a removal leaves -/

structure RemovalFrame (db db' : SchedDb) : Prop where
  port : ∀ o, hasPort db' o = hasPort db o
  freed : ∀ o, isFreed db' o = true → isFreed db o = true

namespace RemovalFrame

theorem of_kept (h : HqosKept db db') : RemovalFrame db db' where
  port := h.port
  freed o hfreed := by rwa [h.freed o] at hfreed

theorem refl (db) : RemovalFrame db db := of_kept (.refl db)

theorem trans {db₁ db₂ db₃} (h : RemovalFrame db₁ db₂) (h' : RemovalFrame db₂ db₃) :
    RemovalFrame db₁ db₃ :=
  ⟨fun o => (h'.port o).trans (h.port o), fun o hfreed => h.freed o (h'.freed o hfreed)⟩

theorem live (h : RemovalFrame db db') (hlive : isFreed db o = false) :
    isFreed db' o = false := by
  by_contra hfreed
  have hbefore := h.freed o (Bool.eq_true_of_not_eq_false hfreed)
  rw [hlive] at hbefore
  cases hbefore

end RemovalFrame

theorem hqosView_group {node}
    (htype : sg_id.type = .schedulerGroup) (hnode : db.sched_groups sg_id = some node)
    (hlive : isFreed db sg_id = false) :
    hqosView db.tree sg_id =
      some ⟨node.port_id, node.parent_id, node.hierarchy_level, node.child_count, node.childs⟩ := by
  have hfreed : node.freed = false := by
    unfold isFreed at hlive
    rwa [htype, hnode] at hlive
  rw [hqosView_of_group htype]
  show (db.sched_groups sg_id).bind SchedGroup.view = _
  rw [hnode]
  exact if_neg (by rw [hfreed]; simp)

theorem hqosView_queue {node}
    (htype : queue_id.type = .queue) (hnode : db.qos.queues queue_id = some node)
    (hlive : isFreed db queue_id = false) :
    hqosView db.tree queue_id = some ⟨node.port_id, node.parent_sched_group_id, ⊤, 0, []⟩ := by
  have hfreed : node.freed = false := by
    unfold isFreed at hlive
    rwa [htype, hnode] at hlive
  rw [hqosView_of_queue htype]
  show (db.qos.queues queue_id).bind QosQueue.view = _
  rw [hnode]
  exact if_neg (by rw [hfreed]; simp)

theorem HqosForestOn.parent_ne {view : Oid → Option HqosView} {port : Oid → Bool}
    (h : HqosForestOn view port) (hv : view o = some v) (htype : o.type = .schedulerGroup ∨ o.type = .queue) :
    v.parent_id ≠ o := by
  intro heq
  by_cases hgroup : v.parent_id.type = .schedulerGroup
  · have hnode : (view o).map HqosView.node = some v.node := congrArg (Option.map HqosView.node) hv
    obtain ⟨m, hm, habove⟩ := h.forest.parent o _ _ hnode
      (HqosForestOn.parentGroup_some hgroup)
    rw [heq, hnode] at hm
    cases hm
    exact placeAbove_irrefl _ habove
  rcases h.root o v hv hgroup with hnull | ⟨-, hport, -⟩
  · rw [← heq, hnull] at htype
    rcases htype with h | h <;> cases h
  · rw [← heq, hport] at htype
    rcases htype with h | h <;> cases h

section Call

variable {env : SchedEnv} (hupd : ChildUpdates env)

include hupd

theorem call_childs (db : SchedDb) (p c : Oid) (a : Bool) :
    (db.call env (.childNodesUpdate p c a)).1 = .success ∧
    (db.call env (.childNodesUpdate p c a)).2.tree = db.tree.linkChild p c a ∧
    (db.call env (.childNodesUpdate p c a)).2.qos_ports = db.qos_ports := by
  have hok : (db.call env (.childNodesUpdate p c a)).1 = .success := hupd.succeeds _ _ _ _
  refine ⟨hok, ?_, ?_⟩
  · rw [call_ok db env _ hok]
    show env.child_nodes_update p c a db.tree = _
    rw [hupd.links]
  · rw [call_ok db env _ hok]
    rfl

theorem call_childs_frame (db : SchedDb) (p c : Oid) (a : Bool) :
    RemovalFrame db (db.call env (.childNodesUpdate p c a)).2 := by
  obtain ⟨-, htree, hports⟩ := call_childs hupd db p c a
  generalize (db.call _ _).2 = db' at htree hports
  refine ⟨fun o => ?_, fun o hfreed => ?_⟩
  · rw [hasPort, hasPort, hports]
  · have hgroups : db'.sched_groups o = (db.tree.linkChild p c a).sched_groups o :=
      congrFun (congrArg HqosTree.sched_groups htree) o
    have hqueues : db'.qos.queues o = (db.tree.linkChild p c a).queues o :=
      congrFun (congrArg HqosTree.queues htree) o
    unfold isFreed at hfreed ⊢
    rwa [hgroups, hqueues, db.tree.linkChild_freed, db.tree.linkChild_freed_queue] at hfreed

theorem call_childs_place (db : SchedDb) (p c : Oid) (a : Bool) :
    hqosPlace (db.call env (.childNodesUpdate p c a)).2.tree = hqosPlace db.tree := by
  obtain ⟨-, htree, -⟩ := call_childs hupd db p c a
  rw [htree]
  funext o
  unfold hqosPlace HqosTree.linkChild
  cases a with
  | true =>
    rw [if_pos rfl, hqosView_setParent, hqosView_setGroup _ fun node => node.view_append c]
    cases hqosView db.tree o with
    | none => split <;> split <;> rfl
    | some v => split <;> split <;> rfl
  | false =>
    rw [if_neg (by decide), hqosView_setParent, hqosView_setGroup _ fun node => node.view_erase c]
    cases hqosView db.tree o with
    | none => split <;> split <;> rfl
    | some v => split <;> split <;> rfl

theorem call_unlink (h : HqosInv db)
    (hv : hqosView db.tree o = some v) (htype : o.type = .schedulerGroup ∨ o.type = .queue) :
    HqosInv (db.call env (.childNodesUpdate v.parent_id o false)).2 ∧
    hqosView (db.call env (.childNodesUpdate v.parent_id o false)).2.tree o =
      some { v with parent_id := .null } := by
  obtain ⟨-, htree, hports⟩ := call_childs hupd db v.parent_id o false
  have hframe := call_childs_frame hupd db v.parent_id o false
  refine h.unlinked hv ?_ hframe.port (placeLists_of_ports hports)
  rw [htree]
  exact hqosView_unlink (h.forest.parent_ne hv htype) db.tree

/-- **A node without a parent group goes under a parent that fits.** -/
theorem call_link (h : HqosInv db)
    (hv : hqosView db.tree o = some v) (hroot : v.parent_id.type ≠ .schedulerGroup) (hne : parent_id ≠ o)
    (hfits : ParentFits (hqosView db.tree) (hasPort db) v.port_id v.level parent_id) :
    HqosInv (db.call env (.childNodesUpdate parent_id o true)).2 ∧
    hqosView (db.call env (.childNodesUpdate parent_id o true)).2.tree o =
      some { v with parent_id := parent_id } := by
  obtain ⟨-, htree, hports⟩ := call_childs hupd db parent_id o true
  have hframe := call_childs_frame hupd db parent_id o true
  refine h.linked hv hroot hfits ?_ hframe.port (placeLists_of_ports hports)
  rw [htree]
  exact hqosView_link hne db.tree

end Call

/-! ## The node goes -/

theorem portQueueListUpdate_lists (queue_id) {port_id} (is_add : Bool)
    (hport : hasPort db port_id = true) :
    (portQueueListUpdate queue_id port_id is_add db).1 = .success ∧
    placeLists (portQueueListUpdate queue_id port_id is_add db).2 = fun k =>
      if k = (port_id, ⊤) then
        (if is_add = true then placeLists db k ++ [queue_id] else (placeLists db k).erase queue_id)
      else placeLists db k := by
  obtain ⟨port, hport⟩ := Option.isSome_iff_exists.mp hport
  unfold portQueueListUpdate
  rw [hport]
  refine ⟨rfl, ?_⟩
  funext ⟨o, level⟩
  cases level with
  | top =>
    simp only [Prod.mk.injEq, and_true]
    show queuesOf _ o = if o = port_id then (if is_add = true then queuesOf db o ++ _ else
      (queuesOf db o).erase _) else queuesOf db o
    simp only [queuesOf, setQosPort]
    split
    next ho =>
      rw [ho, hport]
      rfl
    · rfl
  | coe level =>
    simp only [Prod.mk.injEq, WithTop.coe_ne_top, and_false, if_false]
    show schedGroupsOf _ o level = schedGroupsOf db o level
    simp only [schedGroupsOf, setQosPort]
    split
    · cases db.qos_ports o <;> rfl
    · rfl

theorem portSchedGroupListUpdate_lists (sg_id) {port_id} (level : Nat) (is_add : Bool)
    (hport : hasPort db port_id = true) :
    (portSchedGroupListUpdate sg_id port_id level is_add db).1 = .success ∧
    placeLists (portSchedGroupListUpdate sg_id port_id level is_add db).2 = fun k =>
      if k = (port_id, (level : WithTop Nat)) then
        (if is_add = true then placeLists db k ++ [sg_id] else (placeLists db k).erase sg_id)
      else placeLists db k := by
  obtain ⟨port, hport⟩ := Option.isSome_iff_exists.mp hport
  unfold portSchedGroupListUpdate
  rw [hport]
  refine ⟨rfl, ?_⟩
  rw [show (level : WithTop Nat) = WithTop.some level from rfl]
  funext ⟨o, l⟩
  cases l with
  | top =>
    simp only [Prod.mk.injEq, WithTop.top_ne_coe, and_false, if_false]
    show queuesOf _ o = queuesOf db o
    simp only [queuesOf, setQosPort]
    split
    · cases db.qos_ports o <;> rfl
    · rfl
  | coe l =>
    simp only [Prod.mk.injEq, WithTop.coe_inj]
    show schedGroupsOf _ o l = if o = port_id ∧ l = level then
      (if is_add = true then schedGroupsOf db o l ++ _ else (schedGroupsOf db o l).erase _)
      else schedGroupsOf db o l
    simp only [schedGroupsOf, setQosPort]
    by_cases ho : o = port_id
    · rw [if_pos ho, ho, hport]
      simp only [Option.map_some, Option.elim_some, true_and]
    · rw [if_neg ho, if_neg fun h => ho h.1]

theorem portQueueListUpdate_frame (queue_id port_id) (is_add : Bool) (db) :
    (portQueueListUpdate queue_id port_id is_add db).2.tree = db.tree ∧
    RemovalFrame db (portQueueListUpdate queue_id port_id is_add db).2 := by
  unfold portQueueListUpdate
  split
  · exact ⟨rfl, .refl db⟩
  refine ⟨rfl, fun o => ?_, fun o hfreed => hfreed⟩
  simp only [hasPort, setQosPort]
  split
  · exact Option.isSome_map
  · rfl

theorem portSchedGroupListUpdate_frame (sg_id port_id) (level : Nat) (is_add : Bool)
    (db) :
    (portSchedGroupListUpdate sg_id port_id level is_add db).2.tree = db.tree ∧
    RemovalFrame db (portSchedGroupListUpdate sg_id port_id level is_add db).2 := by
  unfold portSchedGroupListUpdate
  split
  · exact ⟨rfl, .refl db⟩
  refine ⟨rfl, fun o => ?_, fun o hfreed => hfreed⟩
  simp only [hasPort, setQosPort]
  split
  · exact Option.isSome_map
  · rfl

theorem HqosInv.hasPort (h : HqosInv db) (hv : hqosView db.tree o = some v) :
    OpxSai.hasPort db v.port_id = true := by
  have hin : o ∈ placeLists db (v.port_id, v.level) := by
    rw [h.lists.mem]
    unfold hqosPlace
    rw [hv]
    rfl
  cases hport : db.qos_ports v.port_id with
  | some port =>
    unfold OpxSai.hasPort
    rw [hport]
    rfl
  | none =>
    exfalso
    unfold placeLists at hin
    split at hin
    · simp only [queuesOf, hport, Option.elim_none, List.not_mem_nil] at hin
    · simp only [schedGroupsOf, hport, Option.elim_none, List.not_mem_nil] at hin

def RemovesFrom (db db' : SchedDb) : Prop := HqosInv db' ∧ RemovalFrame db db'

theorem RemovesFrom.of_kept (h : HqosInv db) (hkept : HqosKept db db') :
    RemovesFrom db db' := ⟨h.kept hkept, .of_kept hkept⟩

theorem RemovesFrom.trans {db₁ db₂ db₃} (h : RemovesFrom db₁ db₂)
    (h' : RemovesFrom db₂ db₃) : RemovesFrom db₁ db₃ := ⟨h'.1, h.2.trans h'.2⟩

theorem queueNodeRemove_inv (h : HqosInv db) (htype : queue_id.type = .queue) (node)
    (hv : hqosView db.tree queue_id = some v) (hport : v.port_id = node.port_id) (hlevel : v.level = ⊤)
    (hroot : v.parent_id.type ≠ .schedulerGroup) (hchilds : v.childs = []) :
    RemovesFrom db (queueNodeRemove queue_id node db) := by
  obtain ⟨htree, hleft⟩ := portQueueListUpdate_frame _ _ _ db
  have hframe : RemovalFrame db (queueNodeRemove queue_id node db) := by
    refine hleft.trans ⟨fun _ => rfl, fun o hfreed => ?_⟩
    unfold isFreed at hfreed ⊢
    split at hfreed
    · exact hfreed
    · change Option.any _ (if o = queue_id then none else _) = true at hfreed
      split at hfreed
      · cases hfreed
      · exact hfreed
    · exact hfreed
  refine ⟨h.gone hv hroot hchilds ?_ hframe.port ?_, hframe⟩
  · rw [← htree]
    exact @hqosView_putQueue queue_id _ _ htype none rfl fun _ => rfl
  · obtain ⟨-, hlists⟩ := portQueueListUpdate_lists _ _ (hport ▸ h.hasPort hv)
    rw [hport, hlevel]
    exact (placeLists_of_ports rfl).trans hlists

/-- **The node of a group without a parent group and without children goes.** -/
theorem schedGroupNodeRemove_inv (h : HqosInv db) (htype : sg_id.type = .schedulerGroup) (node)
    (hv : hqosView db.tree sg_id = some v) (hport : v.port_id = node.port_id)
    (hlevel : v.level = node.hierarchy_level) (hroot : v.parent_id.type ≠ .schedulerGroup)
    (hchilds : v.childs = []) : RemovesFrom db (schedGroupNodeRemove sg_id node db) := by
  obtain ⟨htree, hleft⟩ :=
    portSchedGroupListUpdate_frame _ _ _ _ db
  have hframe : RemovalFrame db (schedGroupNodeRemove sg_id node db) := by
    refine hleft.trans ⟨fun _ => rfl, fun o hfreed => ?_⟩
    unfold isFreed at hfreed ⊢
    split at hfreed
    · change Option.any _ (if o = sg_id then none else _) = true at hfreed
      split at hfreed
      · cases hfreed
      · exact hfreed
    · exact hfreed
    · exact hfreed
  refine ⟨h.gone hv hroot hchilds ?_ hframe.port ?_, hframe⟩
  · rw [← htree]
    exact @hqosView_putGroup sg_id _ _ htype none (fun _ => rfl) rfl
  · obtain ⟨-, hlists⟩ := portSchedGroupListUpdate_lists _ _ _
      (hport ▸ h.hasPort hv)
    rw [hport, hlevel]
    exact (placeLists_of_ports rfl).trans hlists

/-! ## The removals -/

section Remove

variable {env : SchedEnv} (hupd : ChildUpdates env)

include hupd

theorem queueRemove_inv (h : HqosInv db) (hlive : isFreed db queue_id = false) :
    RemovesFrom db (queueRemove env queue_id db).2 := by
  have hrefl : RemovesFrom db db := .of_kept h (.refl db)
  simp only [queueRemove]
  split
  · exact hrefl
  rename_i htype
  replace htype := not_not.mp htype
  split
  · exact hrefl
  rename_i node hnode
  have hv := hqosView_queue htype hnode hlive
  have hconfigs := HqosKept.queueRemoveConfigs env queue_id node true db
  split
  · exact .of_kept h hconfigs
  have hdetached := hconfigs.trans (.call (queueRemoveConfigs env queue_id node true db).2 env
    (.queueDetachFromParent queue_id) fun _ _ _ => nofun)
  split
  · exact .of_kept h hdetached
  generalize ((queueRemoveConfigs env queue_id node true db).2.call _ _).2 = at_ at hdetached ⊢
  rw [← hdetached.view] at hv
  obtain ⟨hunlinked, hv⟩ := call_unlink hupd (h.kept hdetached) hv (.inr htype)
  have hframe : RemovalFrame db (at_.call env
      (.childNodesUpdate node.parent_sched_group_id queue_id false)).2 :=
    (RemovalFrame.of_kept hdetached).trans (call_childs_frame hupd at_ _ _ _)
  simp only at hunlinked hv
  generalize at_.call _ _ = unlinked at hunlinked hv hframe ⊢
  split
  · exact ⟨hunlinked, hframe⟩
  have hremoved := HqosKept.call unlinked.2 env (.queueRemove queue_id) fun _ _ _ => nofun
  split
  · exact ⟨hunlinked.kept hremoved, hframe.trans (.of_kept hremoved)⟩
  generalize (unlinked.2.call _ _).2 = removed at hremoved ⊢
  rw [← hremoved.view] at hv
  have hgone := queueNodeRemove_inv (hunlinked.kept hremoved) htype node hv rfl rfl
    (fun h => nomatch h) rfl
  exact ⟨hgone.1, hframe.trans ((RemovalFrame.of_kept hremoved).trans hgone.2)⟩

theorem schedGroupDetach_inv (h : HqosInv db)
    (htype : sg_id.type = .schedulerGroup) {node} (hv : hqosView db.tree sg_id =
      some ⟨node.port_id, node.parent_id, node.hierarchy_level, node.child_count, node.childs⟩) :
    RemovesFrom db (schedGroupDetach env sg_id node db).2 ∧
    ((schedGroupDetach env sg_id node db).1 = .success →
      ∃ parent_id, parent_id.type ≠ .schedulerGroup ∧
        hqosView (schedGroupDetach env sg_id node db).2.tree sg_id =
          some ⟨node.port_id, parent_id, node.hierarchy_level, node.child_count, node.childs⟩) := by
  simp only [schedGroupDetach]
  split
  next hlevel =>
    refine ⟨.of_kept h (.refl db), fun _ => ⟨node.parent_id, fun hgroup => ?_, hv⟩⟩
    obtain ⟨m, -, -, hbelow⟩ := h.forest.forest.parent sg_id _ node.parent_id
      (congrArg (Option.map HqosView.node) hv) (HqosForestOn.parentGroup_some hgroup)
    simp only [HqosView.node, hlevel, Nat.cast_zero] at hbelow
    exact not_lt_bot hbelow
  have hleft := HqosKept.call db env (.schedGroupDetachFromParent sg_id) (by simp)
  split
  next hbad => exact ⟨.of_kept h hleft, fun hok => absurd hok hbad⟩
  generalize (db.call _ _).2 = at_ at hleft ⊢
  rw [← hleft.view] at hv
  obtain ⟨hunlinked, hv⟩ := call_unlink hupd (h.kept hleft) hv (.inl htype)
  refine ⟨⟨hunlinked, (RemovalFrame.of_kept hleft).trans (call_childs_frame hupd at_ _ _ _)⟩,
    fun _ => ⟨.null, ?_, hv⟩⟩
  decide

theorem schedGroupRemove_inv (h : HqosInv db) (hlive : isFreed db sg_id = false) :
    RemovesFrom db (schedGroupRemove env sg_id db).2 := by
  have hrefl : RemovesFrom db db := .of_kept h (.refl db)
  simp only [schedGroupRemove]
  split
  · exact hrefl
  rename_i htype
  replace htype := not_not.mp htype
  split
  · exact hrefl
  rename_i node hnode
  split
  · exact hrefl
  rename_i hcount
  have hv := hqosView_group htype hnode hlive
  have hchilds : node.childs = [] := by
    have hlen : node.child_count = node.childs.length := h.forest.count sg_id _ hv
    exact List.eq_nil_of_length_eq_zero (by omega)
  have hconfigs := HqosKept.schedGroupRemoveConfigs env sg_id node db
  split
  · exact .of_kept h hconfigs
  generalize (schedGroupRemoveConfigs _ _ _ _).2 = at_ at hconfigs ⊢
  rw [← hconfigs.view] at hv
  obtain ⟨hdetached, hafter⟩ := schedGroupDetach_inv hupd (h.kept hconfigs) htype hv
  have hleft := (RemovesFrom.of_kept h hconfigs).trans hdetached
  generalize schedGroupDetach _ _ _ _ = detached at hleft hafter ⊢
  split
  · exact hleft
  rename_i hok
  obtain ⟨parent_id, hroot, hv⟩ := hafter (not_not.mp hok)
  have hremoved := HqosKept.call detached.2 env (.schedGroupRemove sg_id) fun _ _ _ => nofun
  have hkept := hleft.trans (.of_kept hleft.1 hremoved)
  split
  · exact hkept
  generalize (detached.2.call _ _).2 = removed at hremoved hkept ⊢
  rw [← hremoved.view] at hv
  exact hkept.trans (schedGroupNodeRemove_inv hkept.1 htype node hv rfl rfl hroot hchilds)

omit hupd in
theorem removeEach_inv {remove : Oid → SchedDb → Status × SchedDb}
    (hremove : ∀ o db, HqosInv db → isFreed db o = false → RemovesFrom db (remove o db).2) :
    ∀ (os : List Oid) (db : SchedDb), HqosInv db → (∀ o ∈ os, isFreed db o = false) →
      RemovesFrom db (removeEach remove os db).2 := by
  intro os
  induction os with
  | nil => exact fun db h _ => .of_kept h (.refl db)
  | cons o os ih =>
    intro db h hlive
    have hfirst := hremove o db h (hlive o (List.mem_cons_self ..))
    simp only [removeEach]
    split
    · exact hfirst
    · refine hfirst.trans (ih _ hfirst.1 fun o' ho' => ?_)
      exact hfirst.2.live (hlive o' (List.mem_cons_of_mem o ho'))

omit hupd in
theorem HqosInv.listed_live (h : HqosInv db) (place : Oid × WithTop Nat) (ho : o ∈ placeLists db place) :
    isFreed db o = false := by
  rw [h.lists.mem] at ho
  obtain ⟨v, hv, -⟩ := Option.map_eq_some_iff.mp ho
  unfold hqosView at hv
  unfold isFreed
  split at hv
  · obtain ⟨node, hnode, hview⟩ := Option.bind_eq_some_iff.mp hv
    have hnode' : db.sched_groups o = some node := hnode
    rw [hnode']
    unfold SchedGroup.view at hview
    split at hview
    · cases hview
    next hlive => exact Bool.eq_false_iff.mpr hlive
  · obtain ⟨node, hnode, hview⟩ := Option.bind_eq_some_iff.mp hv
    have hnode' : db.qos.queues o = some node := hnode
    rw [hnode']
    unfold QosQueue.view at hview
    split at hview
    · cases hview
    next hlive => exact Bool.eq_false_iff.mpr hlive
  · cases hv

theorem schedGroupLevelsRemove_inv {port_id} : ∀ (level : Nat) (db : SchedDb), HqosInv db →
    RemovesFrom db (schedGroupLevelsRemove env port_id level db).2 := by
  intro level
  induction level with
  | zero => exact fun db h => .of_kept h (.refl db)
  | succ level ih =>
    intro db h
    have hfirst := removeEach_inv (fun o db h hlive => schedGroupRemove_inv hupd h hlive)
      (schedGroupsOf db port_id level) db h
      fun o ho => h.listed_live (port_id, (level : WithTop Nat)) ho
    simp only [schedGroupLevelsRemove]
    split
    · exact hfirst
    · exact hfirst.trans (ih _ hfirst.1)

theorem portHierarchyDeinit_inv (h : HqosInv db) (port_id) :
    RemovesFrom db (portHierarchyDeinit env port_id db).2 := by
  have hleaves : RemovesFrom db (leafLevelHierarchyRemove env port_id db).2 := by
    simp only [leafLevelHierarchyRemove]
    split
    · exact .of_kept h (.refl db)
    · exact removeEach_inv (fun o db h hlive => queueRemove_inv hupd h hlive) _ db h
        fun o ho => h.listed_live (port_id, ⊤) ho
  simp only [portHierarchyDeinit]
  split
  · exact hleaves
  simp only [nonLeafLevelHierarchyRemove]
  split
  · exact hleaves
  · exact hleaves.trans (schedGroupLevelsRemove_inv hupd _ _ hleaves.1)

end Remove

end OpxSai
