import Mathlib.Data.List.Count
import OpxSai.Lib.Run
import OpxSai.Routing.MemberCreate

/-!
# Routing — adding next hops to a group

`nhGroupAddInLists` links the next hops of an array one by one. Where a link node cannot be allocated
it takes back what it has linked, the first next hop first, and the test for this is on the index: a
loop that is left at the first next hop counts as a success.

* `groupAddExact_iff` — when adding is all-or-nothing.
-/

namespace OpxSai

open Fib

variable {env : Env} {g n : Ptr} {next_hops : List Ptr} {s t u : Fib}

/-! ## All or nothing -/

/-- Every next hop is in the group once more for each time that it is listed. -/
structure LinksAdded (g : Ptr) (next_hops : List Ptr) (s t : Fib) : Prop where
  group_weight : ∀ n, WList.weight (t.group g).nh_list n =
    WList.weight (s.group g).nh_list n + next_hops.count n
  nh_weight : ∀ n, WList.weight (t.nh n).nh_group_list g =
    WList.weight (s.nh n).nh_group_list g + next_hops.count n
  nh_count : (t.group g).nh_count = (s.group g).nh_count + next_hops.length
  group_ref : (t.group g).ref_count = (s.group g).ref_count + next_hops.length
  nh_ref : ∀ n, (t.nh n).ref_count = (s.nh n).ref_count + next_hops.count n

/-- **Adding is all-or-nothing**: it succeeds if all the next hops were added, and changes nothing if it
does not. -/
def GroupAddExact (env : Env) (g : Ptr) (next_hops : List Ptr) (s : Fib) : Prop :=
  let x := nhGroupAddInLists env g next_hops s
  (x.1 = .success ↔ LinksAdded g next_hops s x.2) ∧ (x.1 ≠ .success → SameMembership s x.2)

structure GroupAddable (g : Ptr) (next_hops : List Ptr) (s : Fib) : Prop where
  links : LinksOk s
  group : s.GroupLive g
  nhs : ∀ n ∈ next_hops, s.NhLive n

/-! ## Links in a row -/

def Fib.addLinks (g : Ptr) (next_hops : List Ptr) (s : Fib) : Fib :=
  next_hops.foldl (fun s n => s.addLink g n) s

def Fib.dropLinks (g : Ptr) (next_hops : List Ptr) (s : Fib) : Fib :=
  next_hops.foldl (fun s n => s.dropLink g n) s

theorem GroupAddable.addLink (h : GroupAddable g next_hops s) (hn : n ∈ next_hops) :
    GroupAddable g next_hops (s.addLink g n) :=
  ⟨h.links.addLink h.group (h.nhs n hn), (groupLive_addLink s g n g).mpr h.group,
    fun m hm => (nhLive_addLink s g n m).mpr (h.nhs m hm)⟩

theorem GroupAddable.mono {more : List Ptr} (h : GroupAddable g more s)
    (hsub : ∀ n ∈ next_hops, n ∈ more) : GroupAddable g next_hops s :=
  ⟨h.links, h.group, fun n hn => h.nhs n (hsub n hn)⟩

theorem GroupAddable.of_core (hcore : s.core = t.core) (h : GroupAddable g next_hops s) :
    GroupAddable g next_hops t :=
  ⟨h.links.of_core hcore, (groupLive_of_core hcore g).mp h.group,
    fun n hn => (nhLive_of_core hcore n).mp (h.nhs n hn)⟩

theorem modNh_comm {p q : Ptr} (hne : p ≠ q) (f k : Nh → Nh) (s : Fib) :
    (s.modNh p f).modNh q k = (s.modNh q k).modNh p f := by
  unfold modNh
  rw [Heap.modify_comm _ hne]

/-- Dropping one link does not matter to adding another, once a link was added. -/
theorem dropLink_addLink_of_ne {x y : Ptr} (hne : x ≠ y) (hg : s.GroupLive g) (z : Ptr) :
    ((s.addLink g z).addLink g y).dropLink g x = ((s.addLink g z).dropLink g x).addLink g y := by
  have hcount := nh_count_addLink s g z g hg
  have href := group_ref_count_addLink s g z g hg
  rw [if_pos rfl] at hcount href
  generalize s.addLink g z = u at *
  unfold dropLink addLink
  rw [← modGroup_modNh, modGroup_modGroup, ← modGroup_modNh, modGroup_modGroup, modNh_comm hne.symm]
  refine modGroup_congr ?_
  show ((((u.group g).bumpNh y).incrCount.incrRef).removeNh x).decrRef =
    ((((u.group g).removeNh x).decrRef).bumpNh y).incrCount.incrRef
  have hhas : WList.has (WList.bump (u.group g).nh_list y) x = WList.has (u.group g).nh_list x := by
    simp [WList.has_bump, hne]
  unfold Group.removeNh Group.bumpNh Group.incrCount Group.incrRef Group.decrRef
  simp only [hhas]
  split
  · simp only [Group.dropNh, Group.decrCount, WList.drop_bump_of_ne hne, Group.mk.injEq, true_and,
      and_true]
    omega
  · simp only [Group.mk.injEq, true_and, and_true]
    omega

theorem addLink_undoes (g) (next_hops) :
    Undoes (fun n s => Fib.addLink g n s) (Fib.dropLink g) (· ∈ next_hops) (GroupAddable g next_hops) where
  keep _ _ hn h := h.addLink hn
  cancel n _ h := dropLink_addLink h.links.toLinkLists g n
  comm _ _ z _ _ h hne := dropLink_addLink_of_ne hne h.group z

theorem dropLinks_addLinks (h : GroupAddable g next_hops s) :
    (s.addLinks g next_hops).dropLinks g next_hops = s :=
  (addLink_undoes g next_hops).foldl h fun _ hn => hn

theorem LinksAdded.cons (h : GroupAddable g (n :: next_hops) s)
    (hadd : LinksAdded g next_hops (s.addLink g n) t) : LinksAdded g (n :: next_hops) s t := by
  have hn := h.nhs n List.mem_cons_self
  have hcount : ∀ m, (n :: next_hops).count m = (if m = n then 1 else 0) + next_hops.count m := by
    intro m
    by_cases hm : m = n
    · simp [hm, Nat.add_comm]
    · simp [hm, Ne.symm hm]
  constructor
  · intro m
    rw [hadd.group_weight, nh_list_addLink s g n g h.group, if_pos rfl, WList.weight_bump, hcount]
    omega
  · intro m
    rw [hadd.nh_weight, nh_group_list_addLink s g n m hn, hcount]
    split
    · rw [WList.weight_bump, if_pos rfl]
      omega
    · omega
  · rw [hadd.nh_count, nh_count_addLink s g n g h.group, if_pos rfl, List.length_cons]
    omega
  · rw [hadd.group_ref, group_ref_count_addLink s g n g h.group, if_pos rfl, List.length_cons]
    omega
  · intro m
    rw [hadd.nh_ref, nh_ref_count_addLink s g n m hn, hcount]
    omega

theorem linksAdded_addLinks (h : GroupAddable g next_hops s) : LinksAdded g next_hops s (s.addLinks g next_hops) := by
  induction next_hops generalizing s with
  | nil => exact ⟨fun _ => rfl, fun _ => rfl, rfl, rfl, fun _ => rfl⟩
  | cons n next_hops ih =>
    exact .cons h (ih ((h.addLink List.mem_cons_self).mono fun m hm => List.mem_cons_of_mem n hm))

theorem LinksAdded.of_same (h : LinksAdded g next_hops s t) (hsame : SameMembership t u) :
    LinksAdded g next_hops s u := by
  constructor
  · intro n
    rw [hsame.nh_list, h.group_weight]
  · intro n
    rw [hsame.nh_group_list, h.nh_weight]
  · rw [hsame.nh_count, h.nh_count]
  · rw [hsame.group_ref, h.group_ref]
  · intro n
    rw [hsame.nh_ref, h.nh_ref]

/-! ## The loops -/

theorem core_addLinks (next_hops : List Ptr) (s : Fib) :
    (s.addLinks g next_hops).core = s.core.addLinks g next_hops := by
  induction next_hops generalizing s with
  | nil => rfl
  | cons n next_hops ih =>
    unfold addLinks at *
    rw [List.foldl_cons, ih, core_addLink, List.foldl_cons]

theorem core_dropLinks (next_hops : List Ptr) (s : Fib) :
    (s.dropLinks g next_hops).core = s.core.dropLinks g next_hops := by
  induction next_hops generalizing s with
  | nil => rfl
  | cons n next_hops ih =>
    unfold dropLinks at *
    rw [List.foldl_cons, ih, core_dropLink, List.foldl_cons]

theorem nhGroupRemoveFromLists_core (env) (g) (next_hops) (s) :
    (nhGroupRemoveFromLists env g next_hops s).core = s.core.dropLinks g next_hops := by
  induction next_hops generalizing s with
  | nil => rfl
  | cons n next_hops ih =>
    unfold nhGroupRemoveFromLists dropLinks at *
    rw [List.foldl_cons, ih, nhGroupRemoveOne_core, core_dropLink, List.foldl_cons]

theorem nhGroupAddFrom_cons (env) (h : GroupAddable g (n :: next_hops) s) (i : Nat) :
    (Linkable env g i n s ∧ ∃ t, t.core = (s.addLink g n).core ∧ GroupAddable g next_hops t ∧
      nhGroupAddFrom env g i (n :: next_hops) s = nhGroupAddFrom env g (i + 1) next_hops t) ∨
    ¬ Linkable env g i n s ∧ nhGroupAddFrom env g i (n :: next_hops) s = (i, s) := by
  rw [nhGroupAddFrom]
  cases hone : nhGroupAddOne env g i n s with
  | ok t =>
    obtain ⟨hlink, hcore⟩ := nhGroupAddOne_ok hone
    have hnext := (h.addLink List.mem_cons_self).mono fun m hm => List.mem_cons_of_mem n hm
    exact .inl ⟨hlink, t, hcore, hnext.of_core hcore.symm, rfl⟩
  | error t =>
    obtain ⟨hlink, rfl⟩ := nhGroupAddOne_error (h.links.nh_wf n) hone
    exact .inr ⟨hlink, rfl⟩

theorem nhGroupAddFrom_taken (env) (h : GroupAddable g next_hops s) (i : Nat) :
    ∃ k ≤ next_hops.length, (nhGroupAddFrom env g i next_hops s).1 = i + k ∧
      (nhGroupAddFrom env g i next_hops s).2.core = (s.addLinks g (next_hops.take k)).core := by
  induction next_hops generalizing i s with
  | nil => exact ⟨0, Nat.le_refl 0, rfl, rfl⟩
  | cons n next_hops ih =>
    rcases nhGroupAddFrom_cons env h i with ⟨-, t, hcore, hnext, heq⟩ | ⟨-, heq⟩
    · obtain ⟨k, hk, hindex, hstate⟩ := ih hnext (i + 1)
      refine ⟨k + 1, Nat.succ_le_succ hk, by rw [heq, hindex]; omega, ?_⟩
      rw [heq, hstate, core_addLinks, hcore, ← core_addLinks]
      rfl
    · exact ⟨0, Nat.zero_le _, by rw [heq]; rfl, by rw [heq]; rfl⟩

/-- **When adding is all-or-nothing**: the first next hop can be linked. -/
theorem groupAddExact_iff (env : Env) (h : GroupAddable g (n :: next_hops) s) :
    GroupAddExact env g (n :: next_hops) s ↔ Linkable env g 0 n s := by
  unfold GroupAddExact nhGroupAddInLists
  rcases nhGroupAddFrom_cons env h 0 with ⟨hlink, t, hcore, hnext, heq⟩ | ⟨hlink, heq⟩
  · refine iff_of_true ?_ hlink
    obtain ⟨k, hk, hindex, hstate⟩ := nhGroupAddFrom_taken env hnext 1
    have hadded : (nhGroupAddFrom env g 1 next_hops t).2.core =
        (s.addLinks g ((n :: next_hops).take (k + 1))).core := by
      rw [hstate, core_addLinks, hcore, ← core_addLinks]
      rfl
    rw [heq, Nat.zero_add]
    simp only [hindex, Nat.add_comm 1 k]
    by_cases hall : k + 1 = (n :: next_hops).length
    · rw [hall, List.take_length] at hadded
      simp only [hall, ne_eq, not_true_eq_false, and_false, if_false]
      exact ⟨iff_of_true trivial ((linksAdded_addLinks h).of_same (.of_core hadded)), False.elim⟩
    rw [if_pos ⟨Nat.succ_ne_zero k, hall⟩]
    have hsame : (nhGroupRemoveFromLists env g ((n :: next_hops).take (k + 1))
        (nhGroupAddFrom env g 1 next_hops t).2).core = s.core := by
      have hpre : GroupAddable g ((n :: next_hops).take (k + 1)) s :=
        h.mono fun m hm => List.mem_of_mem_take hm
      rw [nhGroupRemoveFromLists_core, hadded, ← core_dropLinks, dropLinks_addLinks hpre]
    refine ⟨iff_of_false (by simp) fun hbad => ?_, fun _ => .of_core hsame⟩
    have hcount := (SameMembership.of_core hsame).nh_count g
    rw [hbad.nh_count, List.length_cons] at hcount
    omega
  · refine iff_of_false (fun hexact => ?_) hlink
    rw [heq] at hexact
    have hcount := (hexact.1.mp (by simp)).nh_count
    simp at hcount

theorem groupAddExact_iff_twice : GroupAddExact (Env.good 1) 1 [1, 1] oneNhOneGroup := by
  have hgroup : oneNhOneGroup.GroupLive 1 := rfl
  have hlive : ∀ n ∈ [1, 1], oneNhOneGroup.NhLive n := by
    intro n hn
    obtain rfl : n = 1 := by simpa using hn
    rfl
  exact (groupAddExact_iff _ ⟨linksOk_oneNhOneGroup, hgroup, hlive⟩).mpr (by decide)

/-- **The counterexample.** Without memory for the first link nothing is added, and that is a success. -/
theorem not_groupAddExact_first :
    ¬ GroupAddExact { Env.good 1 with avail := fun _ => false } 1 [1] oneNhOneGroup := by
  intro h
  exact absurd (h.1.mp (by decide)).nh_count (by decide)

end OpxSai
