import OpxSai.Routing.EncapFrame
import OpxSai.Routing.NextHopGroup

/-!
# Routing — the links between groups and next hops

`addLink` and `dropLink` are what adding and removing one next hop come to once
the encap next hops are out of sight; the functions of `Routing.NextHopGroup` are
related to them up to the core. `LinksOk` is the invariant of the links that
survives every failure: allocation, NPU, id generation and map insertion.
-/

namespace OpxSai

open Fib
variable {env : Env} {i : Nat} {g n : Ptr}

/-! ## One link more, one link less -/

/-- One copy of `n` more in `g`: both weights, the count and both reference counts. -/
def Fib.addLink (g n : Ptr) (s : Fib) : Fib :=
  (s.modNh n fun x => (x.bumpGroup g).incrRef).modGroup g fun x =>
    ((x.bumpNh n).incrCount).incrRef

/-- The list and the count go down together, and only when the next hop is in the list. -/
def Group.removeNh (n : Ptr) (g : Group) : Group :=
  if WList.has g.nh_list n then (g.dropNh n).decrCount else g

/-- One copy of `n` less in `g`. The reference counts go down in any case. -/
def Fib.dropLink (g n : Ptr) (s : Fib) : Fib :=
  (s.modNh n fun x => (x.dropGroup g).decrRef).modGroup g fun x => (x.removeNh n).decrRef

variable {s t : Fib}

theorem Group.core_removeNh (n : Ptr) (g : Group) :
    (g.removeNh n).core = g.core.removeNh n := by
  unfold Group.removeNh
  show (if _ then _ else g).core = if WList.has g.nh_list n then _ else g.core
  split <;> rfl

theorem core_addLink (g n : Ptr) (s : Fib) : (s.addLink g n).core = s.core.addLink g n := by
  unfold addLink
  rw [core_modGroup (f := fun x => ((x.bumpNh n).incrCount).incrRef) (fun _ => rfl),
    core_modNh (f := fun x => (x.bumpGroup g).incrRef) (fun _ => rfl)]

theorem core_dropLink (g n : Ptr) (s : Fib) : (s.dropLink g n).core = s.core.dropLink g n := by
  unfold dropLink
  rw [core_modGroup (f := fun x => (x.removeNh n).decrRef)
      (fun x => congrArg Group.decrRef (Group.core_removeNh n x)),
    core_modNh (f := fun x => (x.dropGroup g).decrRef) (fun _ => rfl)]

def Linkable (env : Env) (g : Ptr) (index : Nat) (n : Ptr) (s : Fib) : Prop :=
  (WList.has (s.nh n).nh_group_list g = true ∨ env.avail (.groupLink index) = true) ∧
    (WList.has (s.group g).nh_list n = true ∨ env.avail (.nhLink index) = true)

instance (env : Env) (g : Ptr) (index : Nat) (n : Ptr) (s : Fib) :
    Decidable (Linkable env g index n s) :=
  inferInstanceAs (Decidable ((_ ∨ _) ∧ (_ ∨ _)))

theorem nhAddGroupLinkNode_eq (env) (i : Nat) (n g) (s) :
    nhAddGroupLinkNode env i n g s =
      if WList.has (s.nh n).nh_group_list g = true ∨ env.avail (.groupLink i) = true then
        some (s.modNh n (Nh.bumpGroup g))
      else none := by
  unfold nhAddGroupLinkNode
  by_cases hhas : WList.has (s.nh n).nh_group_list g = true
  · simp [hhas]
  by_cases havail : env.avail (.groupLink i) = true
  · simp [hhas, havail]
  · simp [hhas, havail]

theorem nhGroupAddNhLinkNode_some (h : nhGroupAddNhLinkNode env i g n s = some t) :
    (WList.has (s.group g).nh_list n = true ∨ env.avail (.nhLink i) = true) ∧
      t.core = (s.modGroup g (Group.bumpNh n)).core := by
  unfold nhGroupAddNhLinkNode at h
  split at h
  next hhas =>
    cases h
    exact ⟨.inl hhas, rfl⟩
  split at h
  next havail =>
    cases h
    exact ⟨.inr havail, nhGroupDepEncapNhUpdate_core env g n _⟩
  · simp at h

theorem nhGroupAddNhLinkNode_none (h : nhGroupAddNhLinkNode env i g n s = none) :
    ¬ (WList.has (s.group g).nh_list n = true ∨ env.avail (.nhLink i) = true) := by
  unfold nhGroupAddNhLinkNode at h
  split at h
  · simp at h
  rename_i hhas
  split at h
  · simp at h
  next havail => simp [hhas, havail]

theorem nhGroupAddOne_ok (h : nhGroupAddOne env g i n s = .ok t) :
    Linkable env g i n s ∧ t.core = (s.addLink g n).core := by
  unfold nhGroupAddOne at h
  rw [nhAddGroupLinkNode_eq] at h
  split at h
  · simp at h
  rename_i s₁ hs₁
  split at hs₁
  next hfirst =>
    cases hs₁
    split at h
    · simp at h
    rename_i s₂ hs₂
    obtain ⟨hsecond, hcore⟩ := nhGroupAddNhLinkNode_some hs₂
    cases h
    refine ⟨⟨hfirst, hsecond⟩, ?_⟩
    rw [core_modNh (f := Nh.incrRef) (fun _ => rfl),
      core_modGroup (f := Group.incrRef) (fun _ => rfl),
      core_modGroup (f := Group.incrCount) (fun _ => rfl), hcore,
      core_modGroup (f := Group.bumpNh n) (fun _ => rfl),
      core_modNh (f := Nh.bumpGroup g) (fun _ => rfl), core_addLink, modGroup_modGroup,
      modGroup_modGroup, modGroup_modNh, modNh_modNh, ← modGroup_modNh]
    rfl
  · simp at hs₁

theorem nhGroupAddOne_error
    (hwf : WList.Wf (s.nh n).nh_group_list) (h : nhGroupAddOne env g i n s = .error t) :
    ¬ Linkable env g i n s ∧ t = s := by
  unfold nhGroupAddOne at h
  rw [nhAddGroupLinkNode_eq] at h
  split at h
  next hs₁ =>
    cases h
    split at hs₁
    · simp at hs₁
    next hfirst => exact ⟨fun hl => hfirst hl.1, rfl⟩
  rename_i s₁ hs₁
  split at hs₁
  · cases hs₁
    split at h
    next hs₂ =>
      cases h
      refine ⟨fun hl => nhGroupAddNhLinkNode_none hs₂ hl.2, ?_⟩
      -- the group link just made is taken off again
      unfold nhFindAndRemoveGroupNode
      rw [modNh_modNh]
      refine modNh_of_fixed ?_
      unfold Nh.dropGroup Nh.bumpGroup
      simp only [WList.drop_bump hwf]
    · simp at h
  · simp at hs₁

theorem nhGroupFindAndRemoveNhNode_core (env) (g n) (s) :
    (nhGroupFindAndRemoveNhNode env g n s).core =
      (s.modGroup g (Group.removeNh n)).core := by
  have hlink : (nhGroupRemoveNhLinkNode env g n s).core =
      (s.modGroup g (Group.dropNh n)).core := by
    unfold nhGroupRemoveNhLinkNode
    simp only
    split
    · exact nhGroupDepEncapNhUpdate_core env g n false
    · rfl
  unfold nhGroupFindAndRemoveNhNode
  split
  next hhas =>
    have hself : s.modGroup g (Group.removeNh n) =
        s.modGroup g fun x => (x.dropNh n).decrCount := by
      refine modGroup_congr ?_
      unfold Group.removeNh
      rw [if_pos hhas]
    rw [core_modGroup (f := Group.decrCount) (fun _ => rfl), hlink,
      ← core_modGroup (f := Group.decrCount) (fun _ => rfl), modGroup_modGroup, hself]
  next hhas =>
    have hself : s.modGroup g (Group.removeNh n) = s := by
      refine modGroup_of_fixed ?_
      unfold Group.removeNh
      rw [if_neg hhas]
    rw [hself]

theorem nhGroupRemoveOne_core (env : Env) (g n : Ptr) (s : Fib) :
    (nhGroupRemoveOne env g n s).core = (s.dropLink g n).core := by
  unfold nhGroupRemoveOne nhFindAndRemoveGroupNode
  simp only
  rw [core_modNh (f := Nh.decrRef) (fun _ => rfl),
    core_modGroup (f := Group.decrRef) (fun _ => rfl), nhGroupFindAndRemoveNhNode_core,
    core_modGroup (Group.core_removeNh n), core_modNh (f := Nh.dropGroup g) (fun _ => rfl),
    modGroup_modGroup, modGroup_modNh, modNh_modNh, ← modGroup_modNh, core_dropLink]
  rfl

/-! ## The invariant of the links -/

/-- The two sides of the links agree, and no link has weight zero. -/
structure LinkLists (s : Fib) : Prop where
  group_wf : ∀ g, WList.Wf (s.group g).nh_list
  nh_wf : ∀ n, WList.Wf (s.nh n).nh_group_list
  sym : ∀ g n, WList.weight (s.group g).nh_list n = WList.weight (s.nh n).nh_group_list g

/-- What holds of the links whatever fails. Besides the lists, `nh_count` is the sum of the
weights, and the id trees lead to live nodes with the id looked for. -/
structure LinksOk (s : Fib) : Prop extends LinkLists s where
  count : ∀ g, (s.group g).nh_count = WList.total (s.group g).nh_list
  groups : ∀ id g, s.nh_group_tree id = some g → s.GroupLive g ∧ (s.group g).group_id = id
  nhs : ∀ id n, s.nh_id_tree id = some n → s.NhLive n ∧ (s.nh n).next_hop_id = id

theorem LinkLists.of_core (hcore : s.core = t.core) (h : LinkLists s) :
    LinkLists t := by
  have hlist : ∀ g, (s.group g).nh_list = (t.group g).nh_list :=
    group_field_of_core (f := Group.nh_list) (fun _ => rfl) hcore
  have hglist : ∀ n, (s.nh n).nh_group_list = (t.nh n).nh_group_list :=
    nh_field_of_core (f := Nh.nh_group_list) (fun _ => rfl) hcore
  refine ⟨fun g => ?_, fun n => ?_, fun g n => ?_⟩
  · rw [← hlist]
    exact h.group_wf g
  · rw [← hglist]
    exact h.nh_wf n
  · rw [← hlist, ← hglist]
    exact h.sym g n

theorem LinksOk.of_core (hcore : s.core = t.core) (h : LinksOk s) : LinksOk t := by
  have hlist : ∀ g, (s.group g).nh_list = (t.group g).nh_list :=
    group_field_of_core (f := Group.nh_list) (fun _ => rfl) hcore
  have hcount : ∀ g, (s.group g).nh_count = (t.group g).nh_count :=
    group_field_of_core (f := Group.nh_count) (fun _ => rfl) hcore
  have hid : ∀ g, (s.group g).group_id = (t.group g).group_id :=
    group_field_of_core (f := Group.group_id) (fun _ => rfl) hcore
  have hnid : ∀ n, (s.nh n).next_hop_id = (t.nh n).next_hop_id :=
    nh_field_of_core (f := Nh.next_hop_id) (fun _ => rfl) hcore
  have hgt := nh_group_tree_of_core hcore
  have hnt := nh_id_tree_of_core hcore
  refine ⟨h.toLinkLists.of_core hcore, fun g => ?_, fun id g hg => ?_, fun id n hn => ?_⟩
  · rw [← hcount, ← hlist]
    exact h.count g
  · rw [← hgt] at hg
    rw [← groupLive_of_core hcore, ← hid]
    exact h.groups id g hg
  · rw [← hnt] at hn
    rw [← nhLive_of_core hcore, ← hnid]
    exact h.nhs id n hn

/-- Two ids of groups in the tree never lead to one node. -/
theorem LinksOk.group_inj (h : LinksOk s) {id id' : Oid}
    (hid : s.nh_group_tree id = some g) (hid' : s.nh_group_tree id' = some g) : id = id' :=
  (h.groups id g hid).2.symm.trans (h.groups id' g hid').2

theorem LinksOk.nh_inj (h : LinksOk s) {id id' : Oid}
    (hid : s.nh_id_tree id = some n) (hid' : s.nh_id_tree id' = some n) : id = id' :=
  (h.nhs id n hid).2.symm.trans (h.nhs id' n hid').2

/-! ## Reading after `addLink` and `dropLink` -/

section Reading

variable (s : Fib) (g n q : Ptr)

theorem nh_list_addLink (hg : s.GroupLive g) :
    ((s.addLink g n).group q).nh_list =
      if q = g then WList.bump (s.group q).nh_list n else (s.group q).nh_list :=
  group_modGroup_lens (s := s.modNh n fun x => (x.bumpGroup g).incrRef) Group.nh_list
    (fun l => WList.bump l n) (fun _ => rfl) (fun h => absurd hg h) q

theorem nh_count_addLink (hg : s.GroupLive g) :
    ((s.addLink g n).group q).nh_count = (s.group q).nh_count + if q = g then 1 else 0 := by
  have h := group_modGroup_lens (s := s.modNh n fun x => (x.bumpGroup g).incrRef)
    (f := fun x => ((x.bumpNh n).incrCount).incrRef) Group.nh_count
    (fun c => c + 1) (fun _ => rfl) (fun h => absurd hg h) q
  refine h.trans ?_
  split <;> rfl

theorem group_ref_count_addLink (hg : s.GroupLive g) :
    ((s.addLink g n).group q).ref_count = (s.group q).ref_count + if q = g then 1 else 0 := by
  have h := group_modGroup_lens (s := s.modNh n fun x => (x.bumpGroup g).incrRef)
    (f := fun x => ((x.bumpNh n).incrCount).incrRef) Group.ref_count
    (fun c => c + 1) (fun _ => rfl) (fun h => absurd hg h) q
  refine h.trans ?_
  split <;> rfl

theorem group_id_addLink : ((s.addLink g n).group q).group_id = (s.group q).group_id :=
  group_modGroup_field (f := fun x => ((x.bumpNh n).incrCount).incrRef) Group.group_id
    (fun _ => rfl) _ g q

theorem nh_group_list_addLink (hn : s.NhLive n) :
    ((s.addLink g n).nh q).nh_group_list =
      if q = n then WList.bump (s.nh q).nh_group_list g else (s.nh q).nh_group_list :=
  nh_modNh_lens (s := s) (f := fun x => (x.bumpGroup g).incrRef) Nh.nh_group_list
    (fun l => WList.bump l g) (fun _ => rfl) (fun h => absurd hn h) q

theorem nh_ref_count_addLink (hn : s.NhLive n) :
    ((s.addLink g n).nh q).ref_count = (s.nh q).ref_count + if q = n then 1 else 0 := by
  have h := nh_modNh_lens (s := s) (f := fun x => (x.bumpGroup g).incrRef) Nh.ref_count
    (fun c => c + 1) (fun _ => rfl) (fun h => absurd hn h) q
  refine h.trans ?_
  split <;> rfl

theorem next_hop_id_addLink : ((s.addLink g n).nh q).next_hop_id = (s.nh q).next_hop_id :=
  nh_modNh_field (f := fun x => (x.bumpGroup g).incrRef) Nh.next_hop_id (fun _ => rfl) s n q

@[simp] theorem groupLive_addLink : (s.addLink g n).GroupLive q ↔ s.GroupLive q :=
  groupLive_modGroup _ g q _

@[simp] theorem nhLive_addLink : (s.addLink g n).NhLive q ↔ s.NhLive q :=
  nhLive_modNh s n q _

theorem Group.nh_list_removeNh (x : Group) : (x.removeNh n).nh_list = WList.drop x.nh_list n := by
  unfold Group.removeNh
  split
  · rfl
  next hhas => rw [WList.drop_of_not_has (by simpa using hhas)]

theorem Group.ref_count_removeNh {x : Group} : (x.removeNh n).ref_count = x.ref_count := by
  unfold Group.removeNh
  split <;> rfl

theorem Group.group_id_removeNh (x : Group) : (x.removeNh n).group_id = x.group_id := by
  unfold Group.removeNh
  split <;> rfl

theorem nh_list_dropLink :
    ((s.dropLink g n).group q).nh_list =
      if q = g then WList.drop (s.group q).nh_list n else (s.group q).nh_list :=
  group_modGroup_lens (s := s.modNh n fun x => (x.dropGroup g).decrRef)
    (f := fun x => (x.removeNh n).decrRef) Group.nh_list
    (fun l => WList.drop l n) (Group.nh_list_removeNh n) (fun _ => rfl) q

theorem nh_count_dropLink :
    ((s.dropLink g n).group q).nh_count = (s.group q).nh_count -
      if q = g ∧ WList.has (s.group q).nh_list n = true then 1 else 0 := by
  by_cases hq : q = g
  · subst hq
    by_cases hlive : s.GroupLive q
    · unfold dropLink
      rw [group_modGroup (by exact hlive), if_pos rfl]
      show ((Group.removeNh n (s.group q)).decrRef).nh_count = _
      unfold Group.removeNh
      split
      next hhas =>
        rw [if_pos ⟨rfl, hhas⟩]
        rfl
      rename_i hhas
      rw [if_neg fun h => hhas h.2]
      rfl
    · have hdead : ¬ (s.dropLink q n).GroupLive q := by
        unfold dropLink
        rw [groupLive_modGroup]
        exact hlive
      rw [group_of_not_live hdead, group_of_not_live hlive]
      simp [Group.zero, WList.has]
  · unfold dropLink
    rw [group_modGroup_of_ne hq, if_neg fun h => hq h.1]
    rfl

theorem group_ref_count_dropLink :
    ((s.dropLink g n).group q).ref_count = (s.group q).ref_count - if q = g then 1 else 0 := by
  have h := group_modGroup_lens (s := s.modNh n fun x => (x.dropGroup g).decrRef)
    (f := fun x => (x.removeNh n).decrRef) (p := g) Group.ref_count (fun c => c - 1)
    (fun x => congrArg (· - 1) (Group.ref_count_removeNh n)) (fun _ => rfl) q
  refine h.trans ?_
  split <;> rfl

theorem group_id_dropLink : ((s.dropLink g n).group q).group_id = (s.group q).group_id :=
  group_modGroup_field (f := fun x => (x.removeNh n).decrRef) Group.group_id
    (Group.group_id_removeNh n) _ g q

theorem nh_group_list_dropLink :
    ((s.dropLink g n).nh q).nh_group_list =
      if q = n then WList.drop (s.nh q).nh_group_list g else (s.nh q).nh_group_list :=
  nh_modNh_lens (s := s) (f := fun x => (x.dropGroup g).decrRef) Nh.nh_group_list
    (fun l => WList.drop l g) (fun _ => rfl) (fun _ => rfl) q

theorem nh_ref_count_dropLink :
    ((s.dropLink g n).nh q).ref_count = (s.nh q).ref_count - if q = n then 1 else 0 := by
  have h := nh_modNh_lens (s := s) (p := n) (f := fun x => (x.dropGroup g).decrRef) Nh.ref_count
    (fun c => c - 1) (fun _ => rfl) (fun _ => rfl) q
  refine h.trans ?_
  split <;> rfl

theorem next_hop_id_dropLink : ((s.dropLink g n).nh q).next_hop_id = (s.nh q).next_hop_id :=
  nh_modNh_field (f := fun x => (x.dropGroup g).decrRef) Nh.next_hop_id (fun _ => rfl) s n q

@[simp] theorem groupLive_dropLink : (s.dropLink g n).GroupLive q ↔ s.GroupLive q :=
  groupLive_modGroup _ g q _

@[simp] theorem nhLive_dropLink : (s.dropLink g n).NhLive q ↔ s.NhLive q :=
  nhLive_modNh s n q _

end Reading

/-! ## The operations keep the invariant -/

theorem LinksOk.addLink (h : LinksOk s) (hg : s.GroupLive g) (hn : s.NhLive n) :
    LinksOk (s.addLink g n) := by
  refine ⟨⟨fun q => ?_, fun q => ?_, fun q m => ?_⟩, fun q => ?_, fun id q hq => ?_,
    fun id q hq => ?_⟩
  · rw [nh_list_addLink s g n q hg]
    split
    · exact (h.group_wf q).bump
    · exact h.group_wf q
  · rw [nh_group_list_addLink s g n q hn]
    split
    · exact (h.nh_wf q).bump
    · exact h.nh_wf q
  · -- both sides gain one exactly at the pair (g, n)
    have hsym := h.sym q m
    rw [nh_list_addLink s g n q hg, nh_group_list_addLink s g n m hn]
    by_cases hq : q = g
    · by_cases hm : m = n
      · rw [if_pos hq, if_pos hm, WList.weight_bump, WList.weight_bump, if_pos hm, if_pos hq]
        omega
      · rw [if_pos hq, if_neg hm, WList.weight_bump, if_neg hm]
        omega
    by_cases hm : m = n
    · rw [if_neg hq, if_pos hm, WList.weight_bump, if_neg hq]
      omega
    · rw [if_neg hq, if_neg hm]
      exact hsym
  · have hc := h.count q
    rw [nh_count_addLink s g n q hg, nh_list_addLink s g n q hg]
    split
    · rw [WList.total_bump]
      omega
    · omega
  · rw [groupLive_addLink, group_id_addLink]
    exact h.groups id q hq
  · rw [nhLive_addLink, next_hop_id_addLink]
    exact h.nhs id q hq

theorem LinksOk.dropLink (h : LinksOk s) (g n) : LinksOk (s.dropLink g n) := by
  refine ⟨⟨fun q => ?_, fun q => ?_, fun q m => ?_⟩, fun q => ?_, fun id q hq => ?_,
    fun id q hq => ?_⟩
  · rw [nh_list_dropLink]
    split
    · exact (h.group_wf q).drop
    · exact h.group_wf q
  · rw [nh_group_list_dropLink]
    split
    · exact (h.nh_wf q).drop
    · exact h.nh_wf q
  · have hsym := h.sym q m
    rw [nh_list_dropLink, nh_group_list_dropLink]
    by_cases hq : q = g
    · by_cases hm : m = n
      · rw [if_pos hq, if_pos hm, WList.weight_drop (h.group_wf q),
          WList.weight_drop (h.nh_wf m), if_pos hm, if_pos hq]
        omega
      · rw [if_pos hq, if_neg hm, WList.weight_drop (h.group_wf q), if_neg hm]
        omega
    by_cases hm : m = n
    · rw [if_neg hq, if_pos hm, WList.weight_drop (h.nh_wf m), if_neg hq]
      omega
    · rw [if_neg hq, if_neg hm]
      exact hsym
  · have hc := h.count q
    rw [nh_count_dropLink, nh_list_dropLink]
    by_cases hq : q = g
    · by_cases hhas : WList.has (s.group q).nh_list n = true
      · have htotal := WList.total_drop (h.group_wf q) hhas
        rw [if_pos ⟨hq, hhas⟩, if_pos hq]
        omega
      rw [if_neg fun hand => hhas hand.2, if_pos hq,
        WList.drop_of_not_has (by simpa using hhas)]
      omega
    · rw [if_neg fun hand => hq hand.1, if_neg hq]
      omega
  · rw [groupLive_dropLink, group_id_dropLink]
    exact h.groups id q hq
  · rw [nhLive_dropLink, next_hop_id_dropLink]
    exact h.nhs id q hq

theorem dropLink_addLink (h : LinkLists s) (g n) :
    (s.addLink g n).dropLink g n = s := by
  unfold dropLink addLink
  rw [← modGroup_modNh, modGroup_modGroup, modNh_modNh]
  have hn : s.modNh n (fun x => ((((x.bumpGroup g).incrRef).dropGroup g).decrRef)) = s := by
    refine modNh_of_fixed ?_
    unfold Nh.bumpGroup Nh.incrRef Nh.dropGroup Nh.decrRef
    simp only [WList.drop_bump (h.nh_wf n), Nat.add_sub_cancel]
  rw [hn]
  refine modGroup_of_fixed ?_
  have hhas : WList.has (WList.bump (s.group g).nh_list n) n = true := by
    simp [WList.has_bump]
  unfold Group.removeNh Group.bumpNh Group.incrCount Group.incrRef
  simp only [hhas, if_true]
  unfold Group.dropNh Group.decrCount Group.decrRef
  simp only [WList.drop_bump (h.group_wf g), Nat.add_sub_cancel]

end OpxSai
