import Mathlib.Algebra.BigOperators.Group.Finset.Basic
import Mathlib.Algebra.Order.BigOperators.Group.Finset

/-!
# What the users of a resource need

Elements use a resource or not, and each has a need. Where finitely many use it their needs have a
total (`Spent`).

* `Spent.congr` — the total depends on the users and on what they need;
* `Spent.le` — some of the users need no more than all of them;
* `Spent.of_list` — users that need the same;
* `Spent.change` — some users change, and the total moves by what these needed and need.
-/

namespace OpxSai

/-- Finitely many elements use the resource, and their needs add up to a total. -/
def Spent {ι : Type} (uses : ι → Prop) (need : ι → ℕ) (total : ℕ) : Prop :=
  ∃ users : Finset ι, (∀ i, i ∈ users ↔ uses i) ∧ ∑ i ∈ users, need i = total

namespace Spent

variable {ι : Type} {uses uses' : ι → Prop} {need need' : ι → ℕ} {total total' : ℕ}

theorem congr (h : Spent uses need total) (huses : ∀ i, uses' i ↔ uses i)
    (hneed : ∀ i, uses i → need' i = need i) : Spent uses' need' total := by
  obtain ⟨users, hmem, hsum⟩ := h
  refine ⟨users, fun i => (hmem i).trans (huses i).symm, ?_⟩
  rw [← hsum]
  exact Finset.sum_congr rfl fun i hi => hneed i ((hmem i).mp hi)

theorem le (h : Spent uses need total) (h' : Spent uses' need total') (huses : ∀ i, uses' i → uses i) :
    total' ≤ total := by
  obtain ⟨users, hmem, rfl⟩ := h
  obtain ⟨users', hmem', rfl⟩ := h'
  refine Finset.sum_le_sum_of_subset fun i hi => ?_
  exact (hmem i).mpr (huses i ((hmem' i).mp hi))

theorem need_le (h : Spent uses need total) {i : ι} (hi : uses i) : need i ≤ total := by
  obtain ⟨users, hmem, rfl⟩ := h
  exact Finset.single_le_sum (fun _ _ => Nat.zero_le _) ((hmem i).mpr hi)

theorem of_none (hnone : ∀ i, ¬ uses i) : Spent uses need 0 :=
  ⟨∅, fun i => iff_of_false (Finset.notMem_empty i) (hnone i), Finset.sum_empty⟩

theorem of_list {users : List ι} {k : ℕ} (hnodup : users.Nodup) (hmem : ∀ i, i ∈ users ↔ uses i)
    (hneed : ∀ i, uses i → need i = k) : Spent uses need (users.length * k) := by
  classical
  refine ⟨users.toFinset, fun i => List.mem_toFinset.trans (hmem i), ?_⟩
  have hconst : ∀ i ∈ users.toFinset, need i = k :=
    fun i hi => hneed i ((hmem i).mp (List.mem_toFinset.mp hi))
  rw [Finset.sum_const_nat hconst, List.toFinset_card_of_nodup hnodup]

/-- **Some users change**: the total moves by what these needed before and need now. -/
theorem change {changed : ι → Prop} {before after : ℕ} (h : Spent uses need total)
    (hbefore : Spent (fun i => changed i ∧ uses i) need before)
    (hafter : Spent (fun i => changed i ∧ uses' i) need' after)
    (hkept : ∀ i, ¬ changed i → (uses' i ↔ uses i) ∧ (uses i → need' i = need i)) :
    ∃ total', Spent uses' need' total' ∧ total' + before = total + after := by
  classical
  obtain ⟨users, hmem, rfl⟩ := h
  obtain ⟨old, hold, rfl⟩ := hbefore
  obtain ⟨new, hnew, rfl⟩ := hafter
  have hsub : old ⊆ users := fun i hi => (hmem i).mpr ((hold i).mp hi).2
  -- those that do not change
  have hrest : ∀ i, i ∈ users \ old ↔ uses i ∧ ¬ changed i := by
    intro i
    rw [Finset.mem_sdiff, hmem, hold]
    exact and_congr_right fun hi => not_congr (and_iff_left hi)
  have hdisjoint : Disjoint (users \ old) new := by
    rw [Finset.disjoint_left]
    exact fun i hi hin => ((hrest i).mp hi).2 ((hnew i).mp hin).1
  refine ⟨_, ⟨users \ old ∪ new, fun i => ?_, Finset.sum_union hdisjoint⟩, ?_⟩
  · rw [Finset.mem_union, hrest, hnew]
    by_cases hchanged : changed i
    · simp [hchanged]
    · simp [hchanged, (hkept i hchanged).1]
  · have hsame : ∑ i ∈ users \ old, need' i = ∑ i ∈ users \ old, need i :=
      Finset.sum_congr rfl fun i hi =>
        (hkept i ((hrest i).mp hi).2).2 ((hrest i).mp hi).1
    rw [hsame, ← Finset.sum_sdiff hsub]
    omega

end Spent

end OpxSai
