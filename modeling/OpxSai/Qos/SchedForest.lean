import OpxSai.Lib.Fibres
import OpxSai.Lib.Forest
import OpxSai.Qos.QueueFrame
import Mathlib.Order.WithBot

/-!
# The hierarchy as a forest

Scheduler groups and queues that are live, seen as the nodes of a forest: a group may stand above what is
on its port at a greater level, and a queue is below all levels.

* `HqosForestOn`, `HqosForest` — parents that fit, and lists and counts of children that are exact;
* `HqosInv` — a forest, and lists of the ports that have what is live.
-/

namespace OpxSai

open SchedDb

variable {db db' : SchedDb} {parent_id child_id o : Oid} {port_id sched_id : Oid}
variable {db₁ : SchedDb} {tree tree' : HqosTree}

/-! ## The view -/

/-- What the hierarchy sees of a live group or queue. -/
structure HqosView where
  port_id : Oid
  parent_id : Oid
  level : WithTop Nat
  child_count : Nat
  childs : List Oid

def SchedGroup.view (node : SchedGroup) : Option HqosView :=
  if node.freed = true then none
  else some ⟨node.port_id, node.parent_id, node.hierarchy_level, node.child_count, node.childs⟩

def QosQueue.view (node : QosQueue) : Option HqosView :=
  if node.freed = true then none
  else some ⟨node.port_id, node.parent_sched_group_id, ⊤, 0, []⟩

def hqosView (tree : HqosTree) (o : Oid) : Option HqosView :=
  match o.type with
  | .schedulerGroup => (tree.sched_groups o).bind SchedGroup.view
  | .queue => (tree.queues o).bind QosQueue.view
  | _ => none

def parentGroup (parent_id : Oid) : Option Oid :=
  if parent_id.type = .schedulerGroup then some parent_id else none

/-- On one port, at a smaller level. -/
def placeAbove (above below : Oid × WithTop Nat) : Prop := above.1 = below.1 ∧ above.2 < below.2

def HqosView.node (view : HqosView) : ForestNode Oid (Oid × WithTop Nat) :=
  ⟨(view.port_id, view.level), parentGroup view.parent_id, view.childs⟩

variable {f g : HqosView → HqosView} {v : HqosView}

theorem placeAbove_wf : WellFounded placeAbove :=
  Subrelation.wf (fun h => h.2) (InvImage.wf Prod.snd (wellFounded_lt (α := WithTop Nat)))

theorem placeAbove_irrefl (place : Oid × WithTop Nat) : ¬ placeAbove place place :=
  fun h => lt_irrefl place.2 h.2

/-! ## The forest -/

/-- Parents that are groups form a forest, the other parents are the port or none, and the counts are
those of the lists. -/
structure HqosForestOn (view : Oid → Option HqosView) (port : Oid → Bool) : Prop where
  forest : IsForest placeAbove fun o => (view o).map HqosView.node
  root : ∀ o v, view o = some v → v.parent_id.type ≠ .schedulerGroup →
    v.parent_id = .null ∨
      (v.parent_id = v.port_id ∧ v.parent_id.type = .port ∧ port v.port_id = true)
  count : ∀ o v, view o = some v → v.child_count = v.childs.length

def hasPort (db : SchedDb) (o : Oid) : Bool := (db.qos_ports o).isSome

def HqosForest (db : SchedDb) : Prop := HqosForestOn (hqosView db.tree) (hasPort db)

/-- The port and the level of a live group or queue. -/
def hqosPlace (tree : HqosTree) (o : Oid) : Option (Oid × WithTop Nat) :=
  (hqosView tree o).map fun v => (v.port_id, v.level)

def placeLists (db : SchedDb) (place : Oid × WithTop Nat) : List Oid :=
  match place.2 with
  | none => queuesOf db place.1
  | some level => schedGroupsOf db place.1 level

/-- **The invariant.** The hierarchy is a forest, and each list of a port has what is live at its level. -/
structure HqosInv (db : SchedDb) : Prop where
  forest : HqosForest db
  lists : Fibres (placeLists db) (hqosPlace db.tree)

/-- A parent for a node on the port at the level: none, the port, or a live group of the port at a smaller
level. -/
def ParentFits (view : Oid → Option HqosView) (port : Oid → Bool) (port_id : Oid)
    (level : WithTop Nat) (parent_id : Oid) : Prop :=
  parent_id = .null ∨ (parent_id = port_id ∧ parent_id.type = .port ∧ port port_id = true) ∨
    (parent_id.type = .schedulerGroup ∧
      ∃ m, view parent_id = some m ∧ m.port_id = port_id ∧ m.level < level)

theorem ParentFits.of_place {view view' : Oid → Option HqosView} {port port' : Oid → Bool}
    {level} (h : ParentFits view port port_id level parent_id)
    (hplace : ∀ o, (view' o).map (fun v => (v.port_id, v.level)) =
      (view o).map fun v => (v.port_id, v.level)) (hport : ∀ o, port' o = port o) :
    ParentFits view' port' port_id level parent_id := by
  rcases h with hnull | hport' | ⟨htype, m, hm, hmport, hlevel⟩
  · exact .inl hnull
  · exact .inr (.inl (by rwa [hport]))
  have hm' := hplace parent_id
  rw [hm] at hm'
  obtain ⟨m', hm', heq⟩ := Option.map_eq_some_iff.mp hm'
  have hsame := Prod.mk.inj heq
  exact .inr (.inr ⟨htype, m', hm', hsame.1.trans hmport, hsame.2 ▸ hlevel⟩)

theorem ParentFits.ne {view : Oid → Option HqosView} {port : Oid → Bool}
    {level} (h : ParentFits view port port_id level parent_id)
    (htype : o.type = .schedulerGroup ∨ o.type = .queue) (hlevel : ∀ m, view o = some m → ¬ m.level < level) :
    parent_id ≠ o := by
  intro heq
  rcases h with hnull | ⟨-, hport, -⟩ | ⟨-, m, hm, -, hbelow⟩
  · rw [← heq, hnull] at htype
    rcases htype with h | h <;> cases h
  · rw [← heq, hport] at htype
    rcases htype with h | h <;> cases h
  · exact hlevel m (heq ▸ hm) hbelow

/-- A node goes under a parent: the parent counts it, where it is a group. -/
def linkView (parent_id child_id : Oid) (view : Oid → Option HqosView) : Oid → Option HqosView :=
  fun o =>
    if o = child_id then (view o).map fun v => { v with parent_id := parent_id }
    else if o = parent_id ∧ o.type = .schedulerGroup then
      (view o).map fun m =>
        { m with child_count := m.child_count + 1, childs := m.childs ++ [child_id] }
    else view o

def unlinkView (parent_id child_id : Oid) (view : Oid → Option HqosView) : Oid → Option HqosView :=
  fun o =>
    if o = child_id then (view o).map fun v => { v with parent_id := .null }
    else if o = parent_id ∧ o.type = .schedulerGroup then
      (view o).map fun m =>
        { m with child_count := m.child_count - 1, childs := m.childs.erase child_id }
    else view o

def putView (o : Oid) (v : Option HqosView) (view : Oid → Option HqosView) : Oid → Option HqosView :=
  fun o' => if o' = o then v else view o'

theorem hqosView_of_group (htype : o.type = .schedulerGroup) (tree) :
    hqosView tree o = (tree.sched_groups o).bind SchedGroup.view := by
  unfold hqosView
  rw [htype]

theorem hqosView_of_queue (htype : o.type = .queue) (tree) :
    hqosView tree o = (tree.queues o).bind QosQueue.view := by
  unfold hqosView
  rw [htype]

theorem hqosView_congr (hgroup : tree'.sched_groups o = tree.sched_groups o)
    (hqueue : tree'.queues o = tree.queues o) : hqosView tree' o = hqosView tree o := by
  unfold hqosView
  rw [hgroup, hqueue]

theorem hqosView_putGroup (htype : o.type = .schedulerGroup) {new}
    (hgroups : ∀ o', tree'.sched_groups o' = if o' = o then new else tree.sched_groups o')
    (hqueues : tree'.queues = tree.queues) :
    hqosView tree' = putView o (new.bind SchedGroup.view) (hqosView tree) := by
  funext o'
  unfold putView
  split
  next ho => rw [ho, hqosView_of_group htype, hgroups, if_pos rfl]
  next ho => exact hqosView_congr ((hgroups o').trans (if_neg ho)) (by rw [hqueues])

theorem hqosView_putQueue (htype : o.type = .queue) {new}
    (hgroups : tree'.sched_groups = tree.sched_groups)
    (hqueues : ∀ o', tree'.queues o' = if o' = o then new else tree.queues o') :
    hqosView tree' = putView o (new.bind QosQueue.view) (hqosView tree) := by
  funext o'
  unfold putView
  split
  next ho => rw [ho, hqosView_of_queue htype, hqueues, if_pos rfl]
  next ho => exact hqosView_congr (by rw [hgroups]) ((hqueues o').trans (if_neg ho))

theorem hqosPlace_put {w} (hview : hqosView tree' = putView o w (hqosView tree)) :
    hqosPlace tree' = fun o' =>
      if o' = o then w.map fun v => (v.port_id, v.level) else hqosPlace tree o' := by
  funext o'
  unfold hqosPlace
  rw [hview]
  unfold putView
  split <;> rfl

namespace HqosForestOn

variable {view : Oid → Option HqosView} {port : Oid → Bool}

theorem parentGroup_none (h : parent_id.type ≠ .schedulerGroup) :
    parentGroup parent_id = none := if_neg h

theorem parentGroup_some (h : parent_id.type = .schedulerGroup) :
    parentGroup parent_id = some parent_id := if_pos h

/-- What a forest asks of a node, beside its parent group. -/
def NodeOk (port : Oid → Bool) (v : HqosView) : Prop :=
  (v.parent_id.type ≠ .schedulerGroup → v.parent_id = .null ∨
    (v.parent_id = v.port_id ∧ v.parent_id.type = .port ∧ port v.port_id = true)) ∧
  v.child_count = v.childs.length

theorem nodeOk (h : HqosForestOn view port) (hv : view o = some v) : NodeOk port v :=
  ⟨h.root o v hv, h.count o v hv⟩

theorem of_nodeOk (hforest : IsForest placeAbove fun o => (view o).map HqosView.node)
    (hok : ∀ o v, view o = some v → NodeOk port v) : HqosForestOn view port :=
  ⟨hforest, fun o v hv => (hok o v hv).1, fun o v hv => (hok o v hv).2⟩

theorem put (h : HqosForestOn view port) {new}
    (hforest : IsForest placeAbove fun o' => (putView o new view o').map HqosView.node)
    (hok : ∀ v, new = some v → NodeOk port v) : HqosForestOn (putView o new view) port := by
  refine of_nodeOk hforest fun o' w hw => ?_
  unfold putView at hw
  split at hw
  · exact hok w hw
  · exact h.nodeOk hw

/-- A node takes another parent that is no group, and had none that is one. -/
theorem reroot (h : HqosForestOn view port)
    (hv : view child_id = some v) (hroot : v.parent_id.type ≠ .schedulerGroup)
    (htype : parent_id.type ≠ .schedulerGroup) (hok : parent_id = .null ∨
      (parent_id = v.port_id ∧ parent_id.type = .port ∧ port v.port_id = true)) :
    HqosForestOn (putView child_id (some { v with parent_id := parent_id }) view) port := by
  have hnodes : (fun o => (putView child_id (some { v with parent_id := parent_id }) view o).map
      HqosView.node) = fun o => (view o).map HqosView.node := by
    funext o
    unfold putView
    split
    next ho =>
      rw [ho, hv]
      simp only [Option.map_some, HqosView.node, parentGroup_none hroot, parentGroup_none htype]
    · rfl
  refine h.put (hnodes ▸ h.forest) fun w hw => ?_
  cases hw
  exact ⟨fun _ => hok, h.count _ v hv⟩

/-- A child is written, and its parent with it where that is a group. -/
def moveView (parent_id child_id : Oid) (f g : HqosView → HqosView) (view : Oid → Option HqosView) :
    Oid → Option HqosView :=
  fun o =>
    if o = child_id then (view o).map f
    else if o = parent_id ∧ o.type = .schedulerGroup then (view o).map g
    else view o

theorem moveView_plain (hv : view child_id = some v)
    (htype : parent_id.type ≠ .schedulerGroup) (g : HqosView → HqosView) :
    moveView parent_id child_id f g view = putView child_id (some (f v)) view := by
  funext o
  unfold moveView putView
  split
  next ho =>
    rw [ho, hv]
    rfl
  split
  next ho => exact absurd (ho.1 ▸ ho.2) htype
  · rfl

theorem moved (h : HqosForestOn view port) {m}
    (hforest : IsForest placeAbove fun o => (moveView parent_id child_id f g view o).map HqosView.node)
    (hv : view child_id = some v) (hm : view parent_id = some m)
    (hf : NodeOk port (f v)) (hg : NodeOk port (g m)) :
    HqosForestOn (moveView parent_id child_id f g view) port := by
  refine of_nodeOk hforest fun o w hw => ?_
  unfold moveView at hw
  split at hw
  next ho =>
    rw [ho, hv] at hw
    cases hw
    exact hf
  split at hw
  next ho =>
    rw [ho.1, hm] at hw
    cases hw
    exact hg
  · exact h.nodeOk hw

/-- **A node without a parent group goes under a parent that fits.** -/
theorem link (h : HqosForestOn view port)
    (hv : view child_id = some v) (hroot : v.parent_id.type ≠ .schedulerGroup)
    (hfits : ParentFits view port v.port_id v.level parent_id) :
    HqosForestOn (linkView parent_id child_id view) port := by
  have hplain : parent_id.type ≠ .schedulerGroup →
      linkView parent_id child_id view =
        putView child_id (some { v with parent_id := parent_id }) view :=
    fun htype => moveView_plain hv htype _
  rcases hfits with hnull | ⟨hport, htype, hin⟩ | ⟨htype, m, hm, hmport, hlevel⟩
  · have htype : parent_id.type ≠ .schedulerGroup := by
      rw [hnull]
      decide
    rw [hplain htype]
    exact h.reroot hv hroot htype (.inl hnull)
  · have htype' : parent_id.type ≠ .schedulerGroup := by
      rw [htype]
      decide
    rw [hplain htype']
    exact h.reroot hv hroot htype' (.inr ⟨hport, htype, hin⟩)
  have hne : parent_id ≠ child_id := by
    intro heq
    rw [heq, hv] at hm
    cases hm
    exact lt_irrefl _ hlevel
  have hnodes : (fun o => (linkView parent_id child_id view o).map HqosView.node) =
      linkNode parent_id child_id fun o => (view o).map HqosView.node := by
    funext o
    unfold linkView linkNode
    by_cases hoc : o = child_id
    · simp only [hoc, if_true, hv, Option.map_some, HqosView.node, parentGroup_some htype]
    by_cases hop : o = parent_id
    · simp only [hop, hne, htype, and_self, if_true, if_false, hm, Option.map_some, HqosView.node]
    · rw [if_neg hoc, if_neg fun hand => hop hand.1, if_neg hoc, if_neg hop]
  refine h.moved ?_ hv hm ⟨fun hwt => absurd htype hwt, h.count _ v hv⟩
    ⟨h.root _ m hm, ?_⟩
  · show IsForest placeAbove fun o => (linkView parent_id child_id view o).map HqosView.node
    rw [hnodes]
    refine IsForest.link h.forest placeAbove_irrefl (n := v.node) (m := m.node) ?_ ?_ ?_ ?_
    · exact congrArg (Option.map HqosView.node) hv
    · exact parentGroup_none hroot
    · exact congrArg (Option.map HqosView.node) hm
    · exact ⟨hmport, hlevel⟩
  · simp only [List.length_append, List.length_singleton, h.count _ m hm]

theorem unlink (h : HqosForestOn view port) (hv : view child_id = some v) :
    HqosForestOn (unlinkView v.parent_id child_id view) port := by
  by_cases htype : v.parent_id.type = .schedulerGroup
  swap
  · rw [show unlinkView v.parent_id child_id view = _ from moveView_plain hv htype _]
    exact h.reroot hv htype (by decide) (.inl rfl)
  have hparent : v.node.parent = some v.parent_id := parentGroup_some htype
  have hnode : (view child_id).map HqosView.node = some v.node :=
    congrArg (Option.map HqosView.node) hv
  obtain ⟨mnode, hmnode, habove⟩ := h.forest.parent _ _ _ hnode hparent
  obtain ⟨m, hm, hmeq⟩ := Option.map_eq_some_iff.mp hmnode
  have hne : v.parent_id ≠ child_id := by
    intro heq
    rw [heq, hnode] at hmnode
    cases hmnode
    exact placeAbove_irrefl _ habove
  have hnodes : (fun o => (unlinkView v.parent_id child_id view o).map HqosView.node) =
      unlinkNode v.parent_id child_id fun o => (view o).map HqosView.node := by
    funext o
    unfold unlinkView unlinkNode
    by_cases hoc : o = child_id
    · simp only [hoc, if_true, hv, Option.map_some, HqosView.node]
      rw [parentGroup_none (by decide)]
    by_cases hop : o = v.parent_id
    · simp only [hop, hne, htype, and_self, if_true, if_false, hm, Option.map_some, HqosView.node]
    · rw [if_neg hoc, if_neg fun hand => hop hand.1, if_neg hoc, if_neg hop]
  have hin : child_id ∈ m.childs := by
    have hchilds := h.forest.childs v.parent_id mnode child_id hmnode
    rw [← hmeq] at hchilds
    exact hchilds.mpr ⟨v.node, hnode, hparent⟩
  refine h.moved ?_ hv hm ⟨fun _ => .inl rfl, h.count _ v hv⟩
    ⟨h.root _ m hm, ?_⟩
  · show IsForest placeAbove fun o => (unlinkView v.parent_id child_id view o).map HqosView.node
    rw [hnodes]
    exact IsForest.unlink h.forest placeAbove_irrefl hnode hparent
  · simp only [List.length_erase_of_mem hin, h.count _ m hm]

theorem insert (h : HqosForestOn view port) (ho : view o = none)
    (hroot : v.parent_id.type ≠ .schedulerGroup) (hok : v.parent_id = .null ∨
      (v.parent_id = v.port_id ∧ v.parent_id.type = .port ∧ port v.port_id = true))
    (hchilds : v.childs = []) (hcount : v.child_count = 0) :
    HqosForestOn (putView o (some v) view) port := by
  have hnodes : (fun o' => (putView o (some v) view o').map HqosView.node) =
      insertNode o (v.port_id, v.level) fun o' => (view o').map HqosView.node := by
    funext o'
    unfold putView insertNode
    split
    · simp only [Option.map_some, HqosView.node, parentGroup_none hroot, hchilds]
    · rfl
  refine h.put ?_ fun w hw => ?_
  · rw [hnodes]
    refine IsForest.insertNode h.forest ?_ _
    rw [ho]
    rfl
  · cases hw
    exact ⟨fun _ => hok, by rw [hcount, hchilds]; rfl⟩

theorem drop (h : HqosForestOn view port) (hv : view o = some v)
    (hroot : v.parent_id.type ≠ .schedulerGroup) (hchilds : v.childs = []) :
    HqosForestOn (putView o none view) port := by
  have hnodes : (fun o' => (putView o none view o').map HqosView.node) =
      dropNode o fun o' => (view o').map HqosView.node := by
    funext o'
    unfold putView dropNode
    split <;> rfl
  refine h.put ?_ fun w hw => nomatch hw
  rw [hnodes]
  refine IsForest.dropNode h.forest (n := v.node) ?_ (parentGroup_none hroot) hchilds
  exact congrArg (Option.map HqosView.node) hv

end HqosForestOn

/-! ## What the hierarchy does not see -/

/-- The node is given back and in its tree all the same. -/
def isFreed (db : SchedDb) (o : Oid) : Bool :=
  match o.type with
  | .schedulerGroup => (db.sched_groups o).any SchedGroup.freed
  | .queue => (db.qos.queues o).any QosQueue.freed
  | _ => false

structure HqosKept (db db' : SchedDb) : Prop where
  view : ∀ o, hqosView db'.tree o = hqosView db.tree o
  port : ∀ o, hasPort db' o = hasPort db o
  freed : ∀ o, isFreed db' o = isFreed db o
  queues : ∀ o, queuesOf db' o = queuesOf db o
  groups : ∀ o l, schedGroupsOf db' o l = schedGroupsOf db o l

theorem HqosForest.kept (h : HqosForest db) (hkept : HqosKept db db') :
    HqosForest db' := by
  unfold HqosForest at h ⊢
  rwa [show hqosView db'.tree = hqosView db.tree from funext hkept.view,
    show hasPort db' = hasPort db from funext hkept.port]

theorem HqosKept.placeLists (hkept : HqosKept db db') :
    placeLists db' = placeLists db := by
  funext place
  unfold OpxSai.placeLists
  split
  · exact hkept.queues _
  · exact hkept.groups _ _

theorem HqosKept.place (hkept : HqosKept db db') :
    hqosPlace db'.tree = hqosPlace db.tree := by
  funext o
  unfold hqosPlace
  rw [hkept.view]

theorem HqosInv.kept (h : HqosInv db) (hkept : HqosKept db db') : HqosInv db' := by
  refine ⟨h.forest.kept hkept, ?_⟩
  rw [hkept.placeLists, hkept.place]
  exact h.lists

namespace HqosInv

variable (h : HqosInv db)

include h

/-- **A node without a parent group and without children goes, and leaves its list.** -/
theorem gone (hv : hqosView db.tree o = some v)
    (hroot : v.parent_id.type ≠ .schedulerGroup) (hchilds : v.childs = [])
    (hview : hqosView db'.tree = putView o none (hqosView db.tree))
    (hport : ∀ o, hasPort db' o = hasPort db o) (hlists : placeLists db' = fun k =>
      if k = (v.port_id, v.level) then (placeLists db k).erase o else placeLists db k) :
    HqosInv db' := by
  constructor
  · unfold HqosForest
    rw [hview, show hasPort db' = hasPort db from funext hport]
    exact h.forest.drop hv hroot hchilds
  · rw [hlists, hqosPlace_put hview]
    refine h.lists.erase ?_
    unfold hqosPlace
    rw [hv]
    rfl

theorem came_of (ho : hqosView db.tree o = none) {place} (hforest : HqosForest db')
    (hplace : hqosPlace db'.tree = fun o' => if o' = o then some place else hqosPlace db.tree o')
    (hlists : placeLists db' = fun k =>
      if k = place then placeLists db k ++ [o] else placeLists db k) : HqosInv db' := by
  refine ⟨hforest, ?_⟩
  rw [hlists, hplace]
  refine h.lists.append ?_ place
  unfold hqosPlace
  rw [ho]
  rfl

theorem moved (hv : hqosView db.tree o = some v)
    (hforest : HqosForestOn (HqosForestOn.moveView parent_id o f g (hqosView db.tree)) (hasPort db))
    (hf : ∀ v, ((f v).port_id, (f v).level) = (v.port_id, v.level))
    (hg : ∀ v, ((g v).port_id, (g v).level) = (v.port_id, v.level))
    (hview : hqosView db'.tree = HqosForestOn.moveView parent_id o f g (hqosView db.tree))
    (hport : ∀ o, hasPort db' o = hasPort db o) (hlists : placeLists db' = placeLists db) :
    HqosInv db' ∧ hqosView db'.tree o = some (f v) := by
  have hplace : hqosPlace db'.tree = hqosPlace db.tree := by
    funext o'
    unfold hqosPlace
    rw [hview]
    unfold HqosForestOn.moveView
    cases hqosView db.tree o' with
    | none => simp only [Option.map_none, ite_self]
    | some w =>
      split
      · exact congrArg some (hf w)
      split
      · exact congrArg some (hg w)
      · rfl
  refine ⟨⟨?_, ?_⟩, ?_⟩
  · unfold HqosForest
    rw [hview, show hasPort db' = hasPort db from funext hport]
    exact hforest
  · rw [hlists, hplace]
    exact h.lists
  · rw [hview]
    simp only [HqosForestOn.moveView, if_true, hv, Option.map_some]

/-- **A node without a parent group goes under a parent that fits.** -/
theorem linked (hv : hqosView db.tree o = some v) (hroot : v.parent_id.type ≠ .schedulerGroup)
    (hfits : ParentFits (hqosView db.tree) (hasPort db) v.port_id v.level parent_id)
    (hview : hqosView db'.tree = linkView parent_id o (hqosView db.tree))
    (hport : ∀ o, hasPort db' o = hasPort db o) (hlists : placeLists db' = placeLists db) :
    HqosInv db' ∧ hqosView db'.tree o = some { v with parent_id := parent_id } :=
  h.moved hv (HqosForestOn.link h.forest hv hroot hfits) (fun _ => rfl) (fun _ => rfl) hview hport hlists

theorem unlinked (hv : hqosView db.tree o = some v)
    (hview : hqosView db'.tree = unlinkView v.parent_id o (hqosView db.tree))
    (hport : ∀ o, hasPort db' o = hasPort db o) (hlists : placeLists db' = placeLists db) :
    HqosInv db' ∧ hqosView db'.tree o = some { v with parent_id := .null } :=
  h.moved hv (HqosForestOn.unlink h.forest hv) (fun _ => rfl) (fun _ => rfl) hview hport hlists

end HqosInv

/-- A node joins a list and leaves it again. -/
theorem HqosInv.requeued (h : HqosInv db) {place} (hlists₁ : placeLists db₁ = fun k =>
      if k = place then placeLists db k ++ [o] else placeLists db k)
    (hview : hqosView db'.tree = hqosView db.tree) (hport : ∀ o, hasPort db' o = hasPort db o)
    (hlists : placeLists db' = fun k =>
      if k = place then (placeLists db₁ k).erase o else placeLists db₁ k) : HqosInv db' := by
  constructor
  · unfold HqosForest
    rw [hview, show hasPort db' = hasPort db from funext hport]
    exact h.forest
  · rw [hlists, hlists₁, show hqosPlace db'.tree = hqosPlace db.tree by unfold hqosPlace; rw [hview]]
    refine (congrArg (Fibres · _) (funext fun k => ?_)).mp (h.lists.requeue o place)
    by_cases hk : k = place
    · simp only [if_pos hk]
    · simp only [if_neg hk]

theorem placeLists_of_ports (hports : db'.qos_ports = db.qos_ports) :
    placeLists db' = placeLists db := by
  funext place
  simp only [placeLists, queuesOf, schedGroupsOf, hports]

def SchedGroup.seen (node : SchedGroup) : Option HqosView × Bool := (node.view, node.freed)
def QosQueue.seen (node : QosQueue) : Option HqosView × Bool := (node.view, node.freed)

namespace HqosKept

theorem refl (db) : HqosKept db db :=
  ⟨fun _ => rfl, fun _ => rfl, fun _ => rfl, fun _ => rfl, fun _ _ => rfl⟩

theorem trans {db₂ db₃} (h : HqosKept db₁ db₂) (h' : HqosKept db₂ db₃) :
    HqosKept db₁ db₃ :=
  ⟨fun o => (h'.view o).trans (h.view o), fun o => (h'.port o).trans (h.port o),
   fun o => (h'.freed o).trans (h.freed o), fun o => (h'.queues o).trans (h.queues o),
   fun o l => (h'.groups o l).trans (h.groups o l)⟩

theorem of_seen (hgroups : ∀ o, (db'.sched_groups o).map SchedGroup.seen =
      (db.sched_groups o).map SchedGroup.seen)
    (hqueues : ∀ o, (db'.qos.queues o).map QosQueue.seen = (db.qos.queues o).map QosQueue.seen)
    (hports : db'.qos_ports = db.qos_ports) : HqosKept db db' := by
  have hview : ∀ {α : Type} {seen : α → Option HqosView × Bool} {n n' : Option α},
      n'.map seen = n.map seen → (n'.bind fun x => (seen x).1) = (n.bind fun x => (seen x).1) ∧
        (n'.any fun x => (seen x).2) = n.any fun x => (seen x).2 := by
    intro α seen n n' h
    cases n <;> cases n'
    · exact ⟨rfl, rfl⟩
    · cases h
    · cases h
    · exact ⟨congrArg Prod.fst (Option.some.inj h), congrArg Prod.snd (Option.some.inj h)⟩
  refine ⟨fun o => ?_, fun o => ?_, fun o => ?_, fun o => ?_, fun o l => ?_⟩
  · unfold hqosView
    split
    · exact (hview (hgroups o)).1
    · exact (hview (hqueues o)).1
    · rfl
  · rw [hasPort, hasPort, hports]
  · unfold isFreed
    split
    · exact (hview (hgroups o)).2
    · exact (hview (hqueues o)).2
    · rfl
  · rw [queuesOf, queuesOf, hports]
  · rw [schedGroupsOf, schedGroupsOf, hports]

theorem of_trees (hgroups : db'.sched_groups = db.sched_groups)
    (hqueues : db'.qos.queues = db.qos.queues) (hports : db'.qos_ports = db.qos_ports) :
    HqosKept db db' := .of_seen (fun _ => by rw [hgroups]) (fun _ => by rw [hqueues]) hports

theorem call (db) (env) (c)
    (hc : ∀ p o a, c ≠ .childNodesUpdate p o a) : HqosKept db (db.call env c).2 := by
  have hdone : HqosKept db (db.done env c) := by
    cases c with
    | childNodesUpdate p o a => exact absurd rfl (hc p o a)
    | _ => exact of_trees rfl rfl rfl
  simp only [SchedDb.call]
  split
  · exact hdone.trans (of_trees rfl rfl rfl)
  · exact of_trees rfl rfl rfl

theorem setQueue {queue_id} {f : QosQueue → QosQueue}
    (hf : ∀ node, db.qos.queues queue_id = some node →
      (f node).view = node.view ∧ (f node).freed = node.freed) :
    HqosKept db (setQueue queue_id f db) := by
  refine .of_seen (fun _ => rfl) (fun o => ?_) rfl
  show Option.map _ (if o = queue_id then (db.qos.queues o).map f else db.qos.queues o) = _
  split
  next ho =>
    cases hnode : db.qos.queues o with
    | none => rfl
    | some node => exact congrArg some (Prod.ext (hf node (ho ▸ hnode)).1 (hf node (ho ▸ hnode)).2)
  · rfl

theorem setSchedGroup {sg_id} {f : SchedGroup → SchedGroup}
    (hf : ∀ node, db.sched_groups sg_id = some node →
      (f node).view = node.view ∧ (f node).freed = node.freed) :
    HqosKept db (setSchedGroup sg_id f db) := by
  refine .of_seen (fun o => ?_) (fun _ => rfl) rfl
  show Option.map _ (if o = sg_id then (db.sched_groups o).map f else db.sched_groups o) = _
  split
  next ho =>
    cases hnode : db.sched_groups o with
    | none => rfl
    | some node => exact congrArg some (Prod.ext (hf node (ho ▸ hnode)).1 (hf node (ho ▸ hnode)).2)
  · rfl

theorem setQosPort {f : SchedPort → SchedPort}
    (hf : ∀ port, (f port).queues = port.queues ∧ (f port).sched_groups = port.sched_groups) :
    HqosKept db (setQosPort port_id f db) := by
  have hport : ∀ o, (OpxSai.setQosPort port_id f db).qos_ports o =
      if o = port_id then (db.qos_ports o).map f else db.qos_ports o := fun o => rfl
  refine ⟨fun _ => rfl, fun o => ?_, fun _ => rfl, fun o => ?_, fun o l => ?_⟩
  · rw [hasPort, hport]
    split
    · exact Option.isSome_map
    · rfl
  · rw [queuesOf, hport]
    split
    · cases hp : db.qos_ports o with
      | none => simp [queuesOf, hp]
      | some port => simp [queuesOf, hp, hf]
    · rfl
  · rw [schedGroupsOf, hport]
    split
    · cases hp : db.qos_ports o with
      | none => simp [schedGroupsOf, hp]
      | some port => simp [schedGroupsOf, hp, hf]
    · rfl

theorem of_qos {user} (h : QosOnly user db db') : HqosKept db db' := by
  refine .of_seen (fun o => by rw [h.sched_groups]) (fun o => ?_) h.qos_ports
  -- what is seen of a queue is in its place
  have hplace := congrArg (Option.map QosQueue.seen) (h.writes.places o)
  rw [Option.map_map, Option.map_map] at hplace
  exact hplace

/-! ## Schedulers -/

theorem setSchedUsers {user} (f : List Oid → List Oid) :
    HqosKept db (setSchedUsers sched_id user f db) := of_trees rfl rfl rfl

theorem setSchedulerId {user} {object_id} (db) :
    HqosKept db (setSchedulerId user object_id sched_id db) := by
  cases user with
  | queue => exact setQueue fun _ _ => ⟨rfl, rfl⟩
  | schedGroup => exact setSchedGroup fun _ _ => ⟨rfl, rfl⟩
  | port => exact setQosPort fun _ => ⟨rfl, rfl⟩

theorem schedulerListUpdate (user) (in_tree : Bool) (o prev new) (db) :
    HqosKept db (schedulerListUpdate user in_tree o prev new db).2 := by
  simp only [OpxSai.schedulerListUpdate]
  split
  · exact refl db
  have hleft : HqosKept db (if keepsUsers db prev = true then
      OpxSai.setSchedUsers prev user (fun users => users.erase o) db else db) := by
    split
    · exact setSchedUsers _
    · exact refl db
  generalize (if keepsUsers db prev = true then
    OpxSai.setSchedUsers prev user (fun users => users.erase o) db else db) = left at hleft ⊢
  split
  · exact hleft
  have hjoined : HqosKept db (if keepsUsers db new = true then
      OpxSai.setSchedUsers new user (fun users => users ++ [o]) left else left) := by
    split
    · exact hleft.trans (setSchedUsers _)
    · exact hleft
  simp only
  split
  · exact hjoined.trans (setSchedulerId _)
  · exact hjoined

theorem objSchedulerSet (env) (user) (in_tree : Bool) (o old oid) :
    HqosKept db (objSchedulerSet env user in_tree o old oid db).2 := by
  simp only [OpxSai.objSchedulerSet]
  generalize (if oid = .null then db.default_sched_id else oid) = sched_id
  split
  · exact refl db
  split
  · exact refl db
  split
  · exact refl db
  rename_i node _ _
  generalize (if old ≠ .null then (db.schedulers old).map Scheduler.toSchedParams else none) = prev
  have hset : HqosKept db (db.call env (.schedulerSet o prev node.toSchedParams false)).2 :=
    call db env _ (fun _ _ _ => nofun)
  split
  · exact hset
  · exact hset.trans (schedulerListUpdate user in_tree o _ _ _)

theorem queueRemoveConfigs (env) (queue_id) (node) (in_tree : Bool)
    (db) : HqosKept db (queueRemoveConfigs env queue_id node in_tree db).2 := by
  have hbuffer := of_qos (queueRemoveBuffer_same env queue_id node in_tree db)
  have hwred := hbuffer.trans (of_qos (queueRemoveWred_same env queue_id node in_tree
    _))
  simp only [OpxSai.queueRemoveConfigs]
  generalize queueRemoveWred _ _ _ _ _ = at_ at hwred ⊢
  have hsched : HqosKept db (queueRemoveScheduler env queue_id node in_tree at_).db := by
    simp only [queueRemoveScheduler]
    split
    · exact hwred
    · exact hwred.trans (objSchedulerSet env _ _ _ _ _)
  split
  · exact hsched.trans (of_qos (queueRemoveRevert_same env _ _ _ _))
  · exact hsched

theorem schedGroupRemoveConfigs (env) (sg_id) (node) (db) :
    HqosKept db (schedGroupRemoveConfigs env sg_id node db).2 := by
  simp only [OpxSai.schedGroupRemoveConfigs]
  split
  · exact refl db
  have hset : HqosKept db (schedGroupSchedulerSet env sg_id node.scheduler_id .null db).2 :=
    objSchedulerSet env _ _ _ _ _
  split
  · exact hset.trans (objSchedulerSet env _ _ _ _ _)
  · exact hset

end HqosKept

end OpxSai
