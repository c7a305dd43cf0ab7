import OpxSai.Qos.SchedRemove

/-!
# Creates and the hierarchy

A create puts a node without children into the tree, on the list of its port, and under its parent. A
create that fails gives the node back.

* `schedGroupCreate_inv`, `queueCreate_inv` — a create under a parent that fits keeps the invariant;
* `TakesDown` — the first group of an application takes the default hierarchy down.
-/

namespace OpxSai

open SchedDb

variable {db db₁ : SchedDb} {queue_id : Oid} {env : SchedEnv} {db' : SchedDb}
variable {attr_list : List SchedGroupAttr}

/-! ## New nodes -/

theorem schedGroupAttrSet_fresh (attr_list) : ∀ node : SchedGroup,
    (schedGroupAttrSet attr_list node).child_count = node.child_count ∧
    (schedGroupAttrSet attr_list node).childs = node.childs ∧
    (schedGroupAttrSet attr_list node).freed = node.freed := by
  induction attr_list with
  | nil => exact fun _ => ⟨rfl, rfl, rfl⟩
  | cons attr attr_list ih =>
    intro node
    obtain ⟨hcount, hchilds, hfreed⟩ := ih (schedGroupAttrStore node attr)
    have hstore : (schedGroupAttrStore node attr).child_count = node.child_count ∧
        (schedGroupAttrStore node attr).childs = node.childs ∧
        (schedGroupAttrStore node attr).freed = node.freed := by
      cases attr <;> exact ⟨rfl, rfl, rfl⟩
    exact ⟨hcount.trans hstore.1, hchilds.trans hstore.2.1, hfreed.trans hstore.2.2⟩

theorem queueAttrSet_freed (attr_list) : ∀ node : QosQueue,
    (queueAttrSet attr_list node).freed = node.freed := by
  induction attr_list with
  | nil => exact fun _ => rfl
  | cons attr attr_list ih =>
    intro node
    refine (ih (queueAttrStore node attr)).trans ?_
    cases attr <;> rfl

theorem putSchedGroup_view {sg_id} (htype : sg_id.type = .schedulerGroup) (node)
    (db) :
    hqosView (putSchedGroup sg_id node db).tree = putView sg_id node.view (hqosView db.tree) :=
  @hqosView_putGroup sg_id db.tree _ htype (some node) (fun _ => rfl) rfl

theorem putQueue_view (htype : queue_id.type = .queue) (node) (db) :
    hqosView (putQueue queue_id node db).tree = putView queue_id node.view (hqosView db.tree) :=
  @hqosView_putQueue queue_id db.tree _ htype (some node) rfl fun _ => rfl

/-- Under a parent, the parent that the node was stored with does not matter. -/
theorem linkView_putView (parent_id o) (v) (other)
    (view : Oid → Option HqosView) :
    linkView parent_id o (putView o (some v) view) =
      linkView parent_id o (putView o (some { v with parent_id := other }) view) := by
  funext o'
  unfold linkView putView
  by_cases ho : o' = o
  · simp only [ho, if_true, Option.map_some]
  · simp only [ho, if_false]

theorem putView_putView (o) (v v') (view : Oid → Option HqosView) :
    putView o v (putView o v' view) = putView o v view := by
  funext o'
  unfold putView
  split <;> rfl

theorem putView_none {o} {view : Oid → Option HqosView} (ho : view o = none) :
    putView o none view = view := by
  funext o'
  unfold putView
  split
  next heq => rw [heq, ho]
  · rfl

theorem schedGroupFreed {sg_id} (htype : sg_id.type = .schedulerGroup) (node : SchedGroup)
    (hport : hasPort db node.port_id = true)
    (hdb' : db' = setSchedGroup sg_id (fun n => { n with freed := true })
      (portSchedGroupListUpdate sg_id node.port_id node.hierarchy_level false db).2) :
    hqosView db'.tree = putView sg_id none (hqosView db.tree) ∧
    (∀ o, hasPort db' o = hasPort db o) ∧
    placeLists db' = fun k =>
      if k = (node.port_id, (node.hierarchy_level : WithTop Nat)) then (placeLists db k).erase sg_id
      else placeLists db k := by
  obtain ⟨htree, hleft⟩ :=
    portSchedGroupListUpdate_frame _ _ _ _ db
  obtain ⟨-, hlists⟩ := portSchedGroupListUpdate_lists _ _ _ hport
  rw [hdb']
  refine ⟨?_, hleft.port, (placeLists_of_ports rfl).trans hlists⟩
  rw [← htree]
  generalize (portSchedGroupListUpdate _ _ _ _ _).2 = left
  refine (@hqosView_putGroup sg_id left.tree (setSchedGroup sg_id _ left).tree htype
    ((left.sched_groups sg_id).map fun n => { n with freed := true }) (fun o => ?_) rfl).trans ?_
  · show (if o = sg_id then (left.sched_groups o).map _ else _) = _
    by_cases ho : o = sg_id
    · rw [ho]
      rfl
    · rw [if_neg ho, if_neg ho]
      rfl
  · cases left.sched_groups sg_id <;> rfl

theorem queueFreed (htype : queue_id.type = .queue) (node : QosQueue)
    (hport : hasPort db node.port_id = true)
    (hdb' : db' = setQueue queue_id (fun q => { q with freed := true })
      (portQueueListUpdate queue_id node.port_id false db).2) :
    hqosView db'.tree = putView queue_id none (hqosView db.tree) ∧
    (∀ o, hasPort db' o = hasPort db o) ∧
    placeLists db' = fun k =>
      if k = (node.port_id, ⊤) then (placeLists db k).erase queue_id else placeLists db k := by
  obtain ⟨htree, hleft⟩ := portQueueListUpdate_frame _ _ _ db
  obtain ⟨-, hlists⟩ := portQueueListUpdate_lists _ _ hport
  rw [hdb']
  refine ⟨?_, hleft.port, (placeLists_of_ports rfl).trans hlists⟩
  rw [← htree]
  generalize (portQueueListUpdate _ _ _ _).2 = left
  refine (@hqosView_putQueue queue_id left.tree (setQueue queue_id _ left).tree htype
    ((left.qos.queues queue_id).map fun q => { q with freed := true }) rfl (fun o => ?_)).trans ?_
  · show (if o = queue_id then (left.qos.queues o).map _ else _) = _
    by_cases ho : o = queue_id
    · rw [ho]
      rfl
    · rw [if_neg ho, if_neg ho]
      rfl
  · cases left.qos.queues queue_id <;> rfl

/-! ## Nodes that are new in their tree -/

/-- A node `v` without children is on the list of its port and in its tree, and no group counts it yet. -/
structure HqosPut (o : Oid) (v : HqosView) (db put_ : SchedDb) : Prop where
  inv : HqosInv db
  type : o.type = .schedulerGroup ∨ o.type = .queue
  none : hqosView db.tree o = Option.none
  leaf : v.childs = [] ∧ v.child_count = 0
  view : hqosView put_.tree = putView o (some v) (hqosView db.tree)
  ports : ∀ o, hasPort put_ o = hasPort db o
  lists : placeLists put_ = fun k =>
    if k = (v.port_id, v.level) then placeLists db k ++ [o] else placeLists db k

namespace HqosPut

variable {o : Oid} {v : HqosView} {put_ : SchedDb}

theorem kept (h : HqosPut o v db put_) (hkept : HqosKept put_ db₁) : HqosPut o v db db₁ :=
  { h with
    view := (funext hkept.view).trans h.view
    ports := fun o => (hkept.port o).trans (h.ports o)
    lists := hkept.placeLists.trans h.lists }

theorem hasView (h : HqosPut o v db put_) : hqosView put_.tree o = some v :=
  (congrFun h.view o).trans (if_pos rfl)

theorem rooted (h : HqosPut o v db put_) (hroot : v.parent_id.type ≠ .schedulerGroup)
    (hok : v.parent_id = .null ∨
      (v.parent_id = v.port_id ∧ v.parent_id.type = .port ∧ hasPort db v.port_id = true)) :
    HqosInv put_ := by
  refine h.inv.came_of h.none ?_ (hqosPlace_put h.view) h.lists
  unfold HqosForest
  rw [h.view, show hasPort put_ = hasPort db from funext h.ports]
  exact h.inv.forest.insert h.none hroot hok h.leaf.1 h.leaf.2

theorem gone (h : HqosPut o v db put_)
    (hview : hqosView db'.tree = putView o Option.none (hqosView put_.tree))
    (hport : ∀ o, hasPort db' o = hasPort put_ o) (hlists : placeLists db' = fun k =>
      if k = (v.port_id, v.level) then (placeLists put_ k).erase o else placeLists put_ k) :
    HqosInv db' := by
  refine h.inv.requeued h.lists ?_ (fun o => (hport o).trans (h.ports o)) hlists
  rw [hview, h.view, putView_putView, putView_none h.none]

/-- **The node goes under a parent that fits.** -/
theorem link (hupd : ChildUpdates env) (h : HqosPut o v db put_) {parent_id}
    (hfits : ParentFits (hqosView db.tree) (hasPort db) v.port_id v.level parent_id)
    (hparent : v.parent_id = parent_id) :
    HqosInv (put_.call env (.childNodesUpdate parent_id o true)).2 ∧
    hqosView (put_.call env (.childNodesUpdate parent_id o true)).2.tree o = some v := by
  subst hparent
  have hne := hfits.ne h.type fun m hm => absurd (hm.symm.trans h.none) (by simp)
  obtain ⟨-, htree, hports⟩ := call_childs hupd put_ v.parent_id o true
  have hplace := call_childs_place hupd put_ v.parent_id o true
  have hframe := call_childs_frame hupd put_ v.parent_id o true
  generalize (put_.call _ _).2 = linked at htree hports hplace hframe
  have hview : hqosView linked.tree = linkView v.parent_id o (putView o (some v) (hqosView db.tree)) := by
    rw [htree, hqosView_link hne, h.view]
  refine ⟨h.inv.came_of h.none ?_ (hplace.trans (hqosPlace_put h.view))
    ((placeLists_of_ports hports).trans h.lists), ?_⟩
  · unfold HqosForest
    rw [hview, linkView_putView v.parent_id o v .null,
      show hasPort linked = hasPort db from funext fun o => (hframe.port o).trans (h.ports o)]
    have hinsert := h.inv.forest.insert (v := { v with parent_id := .null }) h.none
      (fun h => nomatch h) (.inl rfl) h.leaf.1 h.leaf.2
    refine hinsert.link (if_pos rfl) (fun h => nomatch h) ?_
    -- the new node stands in the way of no parent
    exact hfits.imp_right (Or.imp_right fun ⟨htype, m, hm, hbelow⟩ =>
      ⟨htype, m, (if_neg hne).trans hm, hbelow⟩)
  · rw [hview]
    simp only [linkView, putView, if_true, Option.map_some]

end HqosPut

/-! ## Groups -/

def SchedGroup.fresh (node : SchedGroup) (parent_id : Oid) : HqosView :=
  ⟨node.port_id, parent_id, node.hierarchy_level, 0, []⟩

variable {node : SchedGroup}

/-- What a create starts from once the group is on the list of its port: the group is in no tree. -/
structure GroupListed (sg_id : Oid) (node : SchedGroup) (db at_ : SchedDb) : Prop where
  inv : HqosInv db
  type : sg_id.type = .schedulerGroup
  fresh : node.view = some (node.fresh node.parent_id)
  none : hqosView db.tree sg_id = Option.none
  port : hasPort db node.port_id = true
  view : hqosView at_.tree = hqosView db.tree
  ports : ∀ o, hasPort at_ o = hasPort db o
  lists : placeLists at_ = fun k =>
    if k = (node.port_id, (node.hierarchy_level : WithTop Nat)) then placeLists db k ++ [sg_id]
    else placeLists db k

section Group

variable (hupd : ChildUpdates env) {sg_id : Oid} {at_ : SchedDb}

theorem GroupListed.put (h : GroupListed sg_id node db at_) :
    HqosPut sg_id (node.fresh node.parent_id) db (putSchedGroup sg_id node at_) where
  inv   := h.inv
  type  := .inl h.type
  none  := h.none
  leaf  := ⟨rfl, rfl⟩
  view  := by rw [putSchedGroup_view h.type, h.fresh, h.view]
  ports := h.ports
  lists := (placeLists_of_ports rfl).trans h.lists

theorem GroupListed.freed (h : GroupListed sg_id node db at_) {db₂}
    (hkept : HqosKept (putSchedGroup sg_id node at_) db₁)
    (hdb₂ : db₂ = setSchedGroup sg_id (fun n => { n with freed := true })
      (portSchedGroupListUpdate sg_id node.port_id node.hierarchy_level false db₁).2) :
    HqosInv db₂ := by
  have hput := h.put.kept hkept
  obtain ⟨hview, hport, hlists⟩ := schedGroupFreed h.type _ ((hput.ports _).trans h.port) hdb₂
  exact hput.gone hview hport hlists

include hupd

theorem GroupListed.unlink (h : HqosInv db₁) (htype : sg_id.type = .schedulerGroup)
    (hv : hqosView db₁.tree sg_id = some (node.fresh node.parent_id)) :
    HqosInv (schedGroupFreeResources env sg_id node true true true true db₁) := by
  simp only [schedGroupFreeResources, if_true]
  have hdetached := HqosKept.call db₁ env (.schedGroupDetachFromParent sg_id) fun _ _ _ => nofun
  generalize (db₁.call _ _).2 = db₂ at hdetached ⊢
  rw [← hdetached.view] at hv
  have hparent : ((db₂.sched_groups sg_id).getD node).parent_id = node.parent_id := by
    unfold hqosView at hv
    rw [htype] at hv
    obtain ⟨n, hn, hview⟩ := Option.bind_eq_some_iff.mp hv
    rw [show db₂.sched_groups sg_id = some n from hn]
    unfold SchedGroup.view at hview
    split at hview
    · cases hview
    · exact congrArg HqosView.parent_id (Option.some.inj hview)
  rw [hparent]
  obtain ⟨hunlinked, hv⟩ := call_unlink hupd (h.kept hdetached) hv (.inl htype)
  have hremoved := HqosKept.call (db₂.call env (.childNodesUpdate node.parent_id sg_id false)).2 env
    (.schedGroupRemove sg_id) fun _ _ _ => nofun
  have hinv := hunlinked.kept hremoved
  have hv' := (hremoved.view sg_id).trans hv
  obtain ⟨hview, hport, hlists⟩ := schedGroupFreed htype node (hinv.hasPort hv') rfl
  exact hinv.gone hv' (fun h => nomatch h) rfl hview hport hlists

theorem schedGroupCreateInTree_inv (h : GroupListed sg_id node db at_)
    (hfits : ParentFits (hqosView db.tree) (hasPort db) node.port_id node.hierarchy_level
      node.parent_id) :
    HqosInv (schedGroupCreateInTree env sg_id node (putSchedGroup sg_id node at_)).2 := by
  simp only [schedGroupCreateInTree]
  split
  · -- no group is above the first level
    rename_i hlevel
    have hroot : node.parent_id = .null ∨ (node.parent_id = node.port_id ∧
        node.parent_id.type = .port ∧ hasPort db node.port_id = true) := by
      rcases hfits with hnull | hport | ⟨-, m, -, -, hbelow⟩
      · exact .inl hnull
      · exact .inr hport
      · rw [hlevel.1, Nat.cast_zero] at hbelow
        exact absurd hbelow not_lt_bot
    refine h.put.rooted (show node.parent_id.type ≠ _ from ?_) hroot
    rcases hroot with hnull | ⟨-, hport, -⟩
    · rw [hnull]
      decide
    · rw [hport]
      decide
  have hattached := HqosKept.call (putSchedGroup sg_id node at_) env
    (.schedGroupAttachToParent sg_id node.parent_id) fun _ _ _ => nofun
  split
  · simp only [schedGroupFreeResources, if_true, Bool.false_eq_true, if_false]
    exact h.freed (hattached.trans (.call _ env (.schedGroupRemove sg_id) fun _ _ _ => nofun)) rfl
  obtain ⟨hlinked, hv⟩ := (h.put.kept hattached).link hupd hfits rfl
  generalize ((putSchedGroup sg_id node at_).call env (.schedGroupAttachToParent sg_id
      node.parent_id)).2.call _ _ = linked
    at hlinked hv ⊢
  split
  · exact GroupListed.unlink hupd hlinked h.type hv
  have hnull : HqosKept linked.2
      (setSchedGroup sg_id (fun n => { n with scheduler_id := .null }) linked.2) :=
    .setSchedGroup fun _ _ => ⟨rfl, rfl⟩
  have hset := hnull.trans (.objSchedulerSet env .schedGroup true sg_id .null node.scheduler_id)
  split
  · exact GroupListed.unlink hupd (hlinked.kept hset) h.type ((hset.view sg_id).trans hv)
  · exact hlinked.kept hset

end Group

/-! ## Queues -/

def QosQueue.fresh (node : QosQueue) (parent_id : Oid) : HqosView :=
  ⟨node.port_id, parent_id, ⊤, 0, []⟩

/-- What a create starts from once the queue is on the list of its port: the queue is in no tree. -/
structure QueueListed (queue_id : Oid) (node : QosQueue) (db at_ : SchedDb) : Prop where
  inv : HqosInv db
  type : queue_id.type = .queue
  fresh : node.view = some (node.fresh node.parent_sched_group_id)
  none : hqosView db.tree queue_id = Option.none
  port : hasPort db node.port_id = true
  view : hqosView at_.tree = hqosView db.tree
  ports : ∀ o, hasPort at_ o = hasPort db o
  lists : placeLists at_ = fun k =>
    if k = (node.port_id, ⊤) then placeLists db k ++ [queue_id] else placeLists db k

theorem queueNode_of_view (htype : queue_id.type = .queue) {v}
    (hv : hqosView db.tree queue_id = some v) :
    ∃ node, db.qos.queues queue_id = some node ∧ node.port_id = v.port_id ∧
      node.parent_sched_group_id = v.parent_id := by
  unfold hqosView at hv
  rw [htype] at hv
  obtain ⟨node, hnode, hview⟩ := Option.bind_eq_some_iff.mp hv
  refine ⟨node, hnode, ?_⟩
  unfold QosQueue.view at hview
  split at hview
  · cases hview
  · cases hview
    exact ⟨rfl, rfl⟩

section Queue

variable (hupd : ChildUpdates env) {node : QosQueue}
  {db at_ : SchedDb}

theorem QueueListed.put (h : QueueListed queue_id node db at_) :
    HqosPut queue_id (node.fresh node.parent_sched_group_id) db (putQueue queue_id node at_) where
  inv   := h.inv
  type  := .inr h.type
  none  := h.none
  leaf  := ⟨rfl, rfl⟩
  view  := by rw [putQueue_view h.type, h.fresh, h.view]
  ports := h.ports
  lists := (placeLists_of_ports rfl).trans h.lists

theorem QueueListed.freed (h : QueueListed queue_id node db at_)
    (hkept : HqosKept (putQueue queue_id node at_) db₁) (rc : Status) :
    HqosInv (queueCreateFailed env queue_id node true true true false rc db₁).2 := by
  simp only [queueCreateFailed, queueFreeResources, if_true, Bool.false_eq_true, if_false, storeQueue]
  obtain ⟨node', hnode', hport', -⟩ := queueNode_of_view h.type (h.put.kept hkept).hasView
  rw [hnode']
  simp only [Option.getD_some]
  replace hkept := hkept.trans (.queueRemoveConfigs env queue_id node' true db₁)
  generalize (queueRemoveConfigs _ _ _ _ _).2 = db₂ at hkept ⊢
  replace hkept := hkept.trans (.call db₂ env (.queueRemove queue_id) fun _ _ _ => nofun)
  generalize (db₂.call _ _).2 = db₃ at hkept ⊢
  have hput := h.put.kept hkept
  obtain ⟨hview, hport, hlists⟩ :=
    queueFreed h.type node' ((hput.ports _).trans (hport' ▸ h.port)) rfl
  refine hput.gone hview hport (hlists.trans ?_)
  rw [hport']
  rfl

include hupd

theorem QueueListed.unlink (h : HqosInv db₁) (htype : queue_id.type = .queue)
    (hv : hqosView db₁.tree queue_id = some (node.fresh node.parent_sched_group_id)) (rc : Status) :
    HqosInv (queueCreateFailed env queue_id node true true true true rc db₁).2 := by
  simp only [queueCreateFailed, queueFreeResources, if_true, storeQueue]
  obtain ⟨node', hnode', hport', -⟩ := queueNode_of_view htype hv
  rw [hnode']
  simp only [Option.getD_some]
  have hkept := HqosKept.queueRemoveConfigs env queue_id node' true db₁
  generalize (queueRemoveConfigs _ _ _ _ _).2 = db₂ at hkept ⊢
  replace hkept := hkept.trans (.call db₂ env (.queueDetachFromParent queue_id) fun _ _ _ => nofun)
  generalize (db₂.call _ _).2 = db₃ at hkept ⊢
  have hv := (hkept.view queue_id).trans hv
  obtain ⟨node'', hnode'', -, hparent⟩ := queueNode_of_view htype hv
  rw [hnode'']
  simp only [Option.getD_some]
  rw [hparent]
  obtain ⟨hunlinked, hv⟩ := call_unlink hupd (h.kept hkept) hv (.inr htype)
  generalize (db₃.call _ _).2 = db₄ at hunlinked hv ⊢
  have hremoved := HqosKept.call db₄ env (.queueRemove queue_id) fun _ _ _ => nofun
  have hinv := hunlinked.kept hremoved
  have hv' := (hremoved.view queue_id).trans hv
  have hport : hasPort (db₄.call env (.queueRemove queue_id)).2 node'.port_id = true := by
    rw [hport']
    exact (hinv.hasPort hv' :)
  obtain ⟨hview, hport, hlists⟩ := queueFreed htype node' hport rfl
  refine hinv.gone hv' (fun h => nomatch h) rfl hview hport (hlists.trans ?_)
  rw [hport']
  rfl

theorem queueCreateInTree_inv (h : QueueListed queue_id node db at_)
    (hfits : ParentFits (hqosView db.tree) (hasPort db) node.port_id ⊤ node.parent_sched_group_id) :
    HqosInv (queueCreateInTree env queue_id node (putQueue queue_id node at_)).2 := by
  simp only [queueCreateInTree]
  -- the queue is under its parent, or has none
  have hattach : HqosKept (putQueue queue_id node at_)
        (queueCreateAttach env queue_id node (putQueue queue_id node at_)).2 ∧
        (queueCreateAttach env queue_id node (putQueue queue_id node at_)).1 ≠ .success ∨
      HqosInv (queueCreateAttach env queue_id node (putQueue queue_id node at_)).2 ∧
        hqosView (queueCreateAttach env queue_id node (putQueue queue_id node at_)).2.tree queue_id =
          some (node.fresh node.parent_sched_group_id) ∧
        (queueCreateAttach env queue_id node (putQueue queue_id node at_)).1 = .success := by
    simp only [queueCreateAttach]
    split
    next hnull =>
      refine .inr ⟨h.put.rooted (show node.parent_sched_group_id.type ≠ _ from ?_) (.inl hnull),
        h.put.hasView, rfl⟩
      rw [hnull]
      decide
    have hattached := HqosKept.call (putQueue queue_id node at_) env
      (.queueAttachToParent queue_id node.parent_sched_group_id) fun _ _ _ => nofun
    split
    next hbad => exact .inl ⟨hattached, hbad⟩
    obtain ⟨hlinked, hv⟩ := (h.put.kept hattached).link hupd hfits rfl
    generalize ((putQueue queue_id node at_).call _ _).2 = db₁ at hlinked hv ⊢
    have hok := (call_childs hupd db₁ node.parent_sched_group_id queue_id true).1
    rw [if_ok hok]
    exact .inr ⟨hlinked, hv, hok⟩
  generalize queueCreateAttach _ _ _ _ = attached at hattach ⊢
  rcases hattach with ⟨hkept, hbad⟩ | ⟨hinv, hv, hok⟩
  · rw [if_pos hbad]
    exact h.freed hkept attached.1
  rw [if_ok hok]
  have hnull : HqosKept attached.2
      (setQueue queue_id (fun q => { q with scheduler_id := .null }) attached.2) :=
    .setQueue fun _ _ => ⟨rfl, rfl⟩
  have hsched : HqosKept attached.2 (queueCreateScheduler env queue_id node attached.2).2 :=
    hnull.trans (.objSchedulerSet env .queue true queue_id .null node.scheduler_id)
  generalize queueCreateScheduler _ _ _ _ = scheduled at hsched ⊢
  have hundo : ∀ db₁ rc, HqosKept attached.2 db₁ →
      HqosInv (queueCreateFailed env queue_id node true true true true rc db₁).2 := fun db₁ rc hkept =>
    QueueListed.unlink hupd (hinv.kept hkept) h.type ((hkept.view queue_id).trans hv) rc
  split
  · exact hundo _ _ hsched
  have hwred := hsched.trans (.of_qos (queueCreateWred_same env queue_id node scheduled.2))
  split
  · exact hundo _ _ hwred
  have hbuffer := hwred.trans (.of_qos (queueCreateBuffer_same env queue_id node
    (queueCreateWred env queue_id node scheduled.2).2))
  split
  · exact hundo _ _ hbuffer
  · exact hinv.kept hbuffer

end Queue

/-! ## The create of a group -/

theorem schedGroupFreeResources_out (h : HqosInv db) (env) (sg_id)
    (hport : hasPort db node.port_id = true)
    (hview : hqosView db₁.tree = hqosView db.tree) (hports : ∀ o, hasPort db₁ o = hasPort db o)
    (hlists : placeLists db₁ = fun k =>
      if k = (node.port_id, (node.hierarchy_level : WithTop Nat)) then placeLists db k ++ [sg_id]
      else placeLists db k) :
    HqosInv (schedGroupFreeResources env sg_id node false true true false db₁) := by
  simp only [schedGroupFreeResources, if_true, Bool.false_eq_true, if_false]
  have hremoved := HqosKept.call db₁ env (.schedGroupRemove sg_id) fun _ _ _ => nofun
  generalize (db₁.call _ _).2 = db₂ at hremoved ⊢
  have hports₂ : ∀ o, hasPort db₂ o = hasPort db o := fun o => (hremoved.port o).trans (hports o)
  obtain ⟨htree, hframe⟩ :=
    portSchedGroupListUpdate_frame _ _ _ _ _
  obtain ⟨-, hlists'⟩ := portSchedGroupListUpdate_lists _ _ _
    ((hports₂ _).trans hport)
  refine h.requeued (hremoved.placeLists.trans hlists) ?_ (fun o => (hframe.port o).trans (hports₂ o))
    hlists'
  rw [htree, show hqosView db₂.tree = _ from funext hremoved.view, hview]

theorem schedGroupCreateNode_inv (hupd : ChildUpdates env) (h : HqosInv db)
    (hnode : node = schedGroupAttrSet attr_list (schedGroupNodeInit env))
    (hfits : ParentFits (hqosView db.tree) (hasPort db) node.port_id node.hierarchy_level
      node.parent_id) : HqosInv (schedGroupCreateNode env attr_list db).2.2 := by
  simp only [schedGroupCreateNode, ← hnode]
  have halloc := HqosKept.call db env .schedGroupAlloc fun _ _ _ => nofun
  split
  · exact h.kept halloc
  generalize (db.call _ _).2 = db₁ at halloc ⊢
  have hbitmap := halloc.trans (.call db₁ env (.schedGroupBitmap env.max_hierarchy_node_childs)
    fun _ _ _ => nofun)
  split
  · exact h.kept hbitmap
  generalize (db₁.call _ _).2 = db₂ at hbitmap ⊢
  have hcreated := hbitmap.trans (.call db₂ env (.schedGroupCreate node) fun _ _ _ => nofun)
  split
  · exact h.kept hcreated
  generalize hid : db₂.newId _ _ = sg_id
  have htype : sg_id.type = .schedulerGroup := hid ▸ rfl
  generalize (db₂.call _ _).2 = db₃ at hcreated ⊢
  have hinv := h.kept hcreated
  by_cases hport : hasPort db₃ node.port_id = true
  swap
  · -- the port is not there
    have hnone : db₃.qos_ports node.port_id = none :=
      Option.not_isSome_iff_eq_none.mp hport
    have hlisted : portSchedGroupListUpdate sg_id node.port_id node.hierarchy_level true db₃ =
        (.invalidObjectId, db₃) := by
      simp only [portSchedGroupListUpdate, hnone]
    rw [hlisted, if_pos (show Status.invalidObjectId ≠ .success by decide)]
    simp only [schedGroupFreeResources, if_true, Bool.false_eq_true, if_false]
    exact hinv.kept (.call db₃ env (.schedGroupRemove sg_id) fun _ _ _ => nofun)
  obtain ⟨hok, hlists⟩ := portSchedGroupListUpdate_lists sg_id node.hierarchy_level true hport
  obtain ⟨htree, hframe⟩ :=
    portSchedGroupListUpdate_frame sg_id node.port_id node.hierarchy_level true db₃
  rw [if_ok hok]
  generalize (portSchedGroupListUpdate _ _ _ _ _).2 = db₄ at hlists htree hframe ⊢
  have hinserted := HqosKept.call db₄ env (.schedGroupInsert sg_id) fun _ _ _ => nofun
  generalize db₄.call _ _ = inserted at hinserted ⊢
  have hview : hqosView inserted.2.tree = hqosView db₃.tree := by
    rw [show hqosView inserted.2.tree = _ from funext hinserted.view, htree]
  have hports : ∀ o, hasPort inserted.2 o = hasPort db₃ o :=
    fun o => (hinserted.port o).trans (hframe.port o)
  have hlists : placeLists inserted.2 = fun k =>
      if k = (node.port_id, (node.hierarchy_level : WithTop Nat)) then placeLists db₃ k ++ [sg_id]
      else placeLists db₃ k := hinserted.placeLists.trans hlists
  split
  · exact schedGroupFreeResources_out hinv env sg_id hport hview hports hlists
  rename_i hnew
  obtain ⟨hcount, hchilds, hfreed⟩ := schedGroupAttrSet_fresh attr_list (schedGroupNodeInit env)
  rw [← hnode] at hcount hchilds hfreed
  refine schedGroupCreateInTree_inv hupd ⟨hinv, htype, ?_, ?_, hport, hview, hports, hlists⟩
    (hfits.of_place (fun o => congrArg _ (hcreated.view o)) hcreated.port)
  · unfold SchedGroup.view SchedGroup.fresh
    rw [hfreed, hcount, hchilds]
    rfl
  · rw [← hview]
    have hnone : inserted.2.sched_groups sg_id = none :=
      Option.not_isSome_iff_eq_none.mp fun h => hnew (.inr h)
    unfold hqosView
    rw [htype]
    show (inserted.2.sched_groups sg_id).bind _ = _
    rw [hnone]
    rfl

/-- The create takes the default hierarchy of its port down: it is the first one of an application. -/
def TakesDown (env : SchedEnv) (attr_list : List SchedGroupAttr) (db : SchedDb) : Prop :=
  ∃ port_id port, schedGroupPortAttributeGet attr_list = some port_id ∧
    env.hqos_init_started port_id = false ∧ env.is_init_complete = true ∧
    db.qos_ports port_id = some port ∧ port.is_app_hqos_init = false

/-- **The port is made ready**, and stays as it is unless the default hierarchy is taken down. -/
theorem portApplicationSchedGroupHandle_inv (hupd : ChildUpdates env) (h : HqosInv db) :
    HqosInv (portApplicationSchedGroupHandle env attr_list db).2 ∧
    (∀ o, hasPort (portApplicationSchedGroupHandle env attr_list db).2 o = hasPort db o) ∧
    (¬ TakesDown env attr_list db →
      HqosKept db (portApplicationSchedGroupHandle env attr_list db).2) := by
  have hkeep : ∀ db', HqosKept db db' → HqosInv db' ∧ (∀ o, hasPort db' o = hasPort db o) ∧
      (¬ TakesDown env attr_list db → HqosKept db db') :=
    fun db' hkept => ⟨h.kept hkept, hkept.port, fun _ => hkept⟩
  simp only [portApplicationSchedGroupHandle]
  split
  · exact hkeep db (.refl db)
  rename_i port_id hget
  have hgot := HqosKept.call db env (.hqosInitStatusGet port_id) fun _ _ _ => nofun
  have hqosports : (db.call env (.hqosInitStatusGet port_id)).2.qos_ports = db.qos_ports := by
    simp only [SchedDb.call]
    split <;> rfl
  generalize db.call _ _ = got at hgot hqosports ⊢
  split
  · exact hkeep _ hgot
  split
  · exact hkeep _ hgot
  rename_i hstarted
  simp only [portHierarchyUpdateOnFirst]
  split
  · exact hkeep _ hgot
  rename_i hcomplete
  split
  · exact hkeep _ hgot
  rename_i port hport
  split
  · exact hkeep _ hgot
  rename_i hfirst
  have hdown : TakesDown env attr_list db :=
    ⟨port_id, port, hget, Bool.eq_false_iff.mpr hstarted, Bool.eq_true_of_not_eq_false hcomplete,
      hqosports ▸ hport, Bool.eq_false_iff.mpr hfirst⟩
  obtain ⟨hdeinit, hframe⟩ := portHierarchyDeinit_inv hupd (h.kept hgot) port_id
  split
  · exact ⟨hdeinit, fun o => (hframe.port o).trans (hgot.port o), fun hno => absurd hdown hno⟩
  have hset : HqosKept (portHierarchyDeinit env port_id got.2).2
      (setQosPort port_id (fun p => { p with is_app_hqos_init := true })
        (portHierarchyDeinit env port_id got.2).2) := .setQosPort fun _ => ⟨rfl, rfl⟩
  exact ⟨hdeinit.kept hset, fun o => (hset.port o).trans ((hframe.port o).trans (hgot.port o)),
    fun hno => absurd hdown hno⟩

/-- **A group is created**: its parent fits, and is no group where the default hierarchy goes. -/
theorem schedGroupCreate_inv (hupd : ChildUpdates env) (h : HqosInv db)
    (hnode : node = schedGroupAttrSet attr_list (schedGroupNodeInit env))
    (hfits : ParentFits (hqosView db.tree) (hasPort db) node.port_id node.hierarchy_level
      node.parent_id) (hdown : TakesDown env attr_list db → node.parent_id.type ≠ .schedulerGroup) :
    HqosInv (schedGroupCreate env attr_list db).2.2 := by
  obtain ⟨hinv, hports, hkept⟩ := portApplicationSchedGroupHandle_inv hupd h
  simp only [schedGroupCreate]
  split
  · exact h
  split
  · exact hinv
  refine schedGroupCreateNode_inv hupd hinv hnode ?_
  by_cases htakes : TakesDown env attr_list db
  · rcases hfits with hnull | ⟨hport, htype, hin⟩ | ⟨htype, -⟩
    · exact .inl hnull
    · exact .inr (.inl ⟨hport, htype, (hports _).trans hin⟩)
    · exact absurd htype (hdown htakes)
  · exact hfits.of_place (fun o => congrArg _ ((hkept htakes).view o)) hports

/-! ## The create of a queue -/

theorem queueCreateFailed_out (h : HqosInv db) (env) (queue_id)
    {node} (hport : hasPort db node.port_id = true)
    (hview : hqosView db₁.tree = hqosView db.tree) (hports : ∀ o, hasPort db₁ o = hasPort db o)
    (hlists : placeLists db₁ = fun k =>
      if k = (node.port_id, ⊤) then placeLists db k ++ [queue_id] else placeLists db k) (rc) :
    HqosInv (queueCreateFailed env queue_id node false true true false rc db₁).2 := by
  simp only [queueCreateFailed, queueFreeResources, if_true, Bool.false_eq_true, if_false, storeQueue]
  have hkept := HqosKept.queueRemoveConfigs env queue_id node false db₁
  generalize (queueRemoveConfigs _ _ _ _ _).2 = db₂ at hkept ⊢
  replace hkept := hkept.trans (.call db₂ env (.queueRemove queue_id) fun _ _ _ => nofun)
  generalize (db₂.call _ _).2 = db₃ at hkept ⊢
  have hports₃ : ∀ o, hasPort db₃ o = hasPort db o := fun o => (hkept.port o).trans (hports o)
  obtain ⟨htree, hframe⟩ := portQueueListUpdate_frame queue_id node.port_id false db₃
  obtain ⟨-, hlists'⟩ := portQueueListUpdate_lists queue_id false ((hports₃ _).trans hport)
  refine h.requeued (hkept.placeLists.trans hlists) ?_ (fun o => (hframe.port o).trans (hports₃ o))
    hlists'
  rw [htree, show hqosView db₃.tree = _ from funext hkept.view, hview]

theorem queueCreate_inv (hupd : ChildUpdates env) (h : HqosInv db)
    {attr_list} {node} (hnode : node = queueAttrSet attr_list queueNodeInit)
    (hfits : ParentFits (hqosView db.tree) (hasPort db) node.port_id ⊤ node.parent_sched_group_id) :
    HqosInv (queueCreate env attr_list db).2.2 := by
  simp only [queueCreate, ← hnode]
  split
  · exact h
  have hcreated := HqosKept.call db env (.queueCreate node) fun _ _ _ => nofun
  generalize hid : db.newId _ _ = queue_id
  have htype : queue_id.type = .queue := hid ▸ rfl
  generalize db.call _ _ = created at hcreated ⊢
  have hinv := h.kept hcreated
  split
  · simp only [queueCreateFailed, queueFreeResources, Bool.false_eq_true, if_false, storeQueue]
    exact hinv.kept (.queueRemoveConfigs env .null node false created.2)
  by_cases hport : hasPort created.2 node.port_id = true
  swap
  · -- the port is not there
    have hnone : created.2.qos_ports node.port_id = none :=
      Option.not_isSome_iff_eq_none.mp hport
    have hlisted : portQueueListUpdate queue_id node.port_id true created.2 =
        (.invalidObjectId, created.2) := by
      simp only [portQueueListUpdate, hnone]
    rw [hlisted, if_pos (show Status.invalidObjectId ≠ .success by decide)]
    simp only [queueCreateFailed, queueFreeResources, if_true, Bool.false_eq_true, if_false, storeQueue]
    have hconfigs := HqosKept.queueRemoveConfigs env queue_id node false created.2
    exact hinv.kept (hconfigs.trans (.call _ env (.queueRemove queue_id) fun _ _ _ => nofun))
  obtain ⟨hok, hlists⟩ := portQueueListUpdate_lists queue_id true hport
  obtain ⟨htree, hframe⟩ := portQueueListUpdate_frame queue_id node.port_id true created.2
  rw [if_ok hok]
  generalize (portQueueListUpdate _ _ _ _).2 = db₄ at hlists htree hframe ⊢
  have hinserted := HqosKept.call db₄ env (.queueInsert queue_id) fun _ _ _ => nofun
  generalize db₄.call _ _ = inserted at hinserted ⊢
  have hview : hqosView inserted.2.tree = hqosView created.2.tree := by
    rw [show hqosView inserted.2.tree = _ from funext hinserted.view, htree]
  have hports : ∀ o, hasPort inserted.2 o = hasPort created.2 o :=
    fun o => (hinserted.port o).trans (hframe.port o)
  have hlists : placeLists inserted.2 = fun k =>
      if k = (node.port_id, ⊤) then placeLists created.2 k ++ [queue_id] else placeLists created.2 k :=
    hinserted.placeLists.trans hlists
  split
  · exact queueCreateFailed_out hinv env queue_id hport hview hports hlists .failure
  rename_i hnew
  refine queueCreateInTree_inv hupd ⟨hinv, htype, ?_, ?_, hport, hview, hports, hlists⟩
    (hfits.of_place (fun o => congrArg _ (hcreated.view o)) hcreated.port)
  · have hfreed : node.freed = false := hnode ▸ queueAttrSet_freed attr_list queueNodeInit
    unfold QosQueue.view QosQueue.fresh
    rw [hfreed]
    rfl
  · rw [← hview]
    have hnone : inserted.2.qos.queues queue_id = none :=
      Option.not_isSome_iff_eq_none.mp fun h => hnew (.inr h)
    unfold hqosView
    rw [htype]
    show (inserted.2.qos.queues queue_id).bind _ = _
    rw [hnone]
    rfl

end OpxSai
