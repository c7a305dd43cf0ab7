import Mathlib.Data.List.Nodup
import Mathlib.Algebra.BigOperators.Group.List.Basic

/-!
# Weighted lists

A list of links, each naming one element with the number of times it was put
in. Putting an element in a second time raises its weight (`bump`); taking it
out lowers the weight and unlinks it when nothing is left (`drop`). A
well-formed weighted list (`Wf`: each element linked once, no weight zero) is a
finite multiset that remembers the order of first insertion.
-/

namespace OpxSai

/-- One link: an element and how often it is in the list. -/
structure WLink (α : Type) where
  self : α
  weight : Nat
deriving DecidableEq

namespace WList

variable {α : Type} [DecidableEq α]

variable {l : List (WLink α)} {x : α} {k : WLink α}

/-- The weight of `x`, zero when `x` is not linked. -/
def weight : List (WLink α) → α → Nat
  | [], _ => 0
  | k :: l, x => if k.self = x then k.weight else weight l x

/-- Is `x` linked? -/
def has : List (WLink α) → α → Bool
  | [], _ => false
  | k :: l, x => if k.self = x then true else has l x

/-- Raise the weight of `x`, linking it at the back if it is not there. -/
def bump : List (WLink α) → α → List (WLink α)
  | [], x => [⟨x, 1⟩]
  | k :: l, x => if k.self = x then ⟨k.self, k.weight + 1⟩ :: l else k :: bump l x

/-- Lower the weight of `x`, unlinking it when the weight becomes zero. -/
def drop : List (WLink α) → α → List (WLink α)
  | [], _ => []
  | k :: l, x =>
    if k.self = x then
      if k.weight = 0 then k :: l
      else if k.weight = 1 then l
      else ⟨k.self, k.weight - 1⟩ :: l
    else k :: drop l x

/-- Unlink `x` whatever its weight. -/
def unlink : List (WLink α) → α → List (WLink α)
  | [], _ => []
  | k :: l, x => if k.self = x then l else k :: unlink l x

def total : List (WLink α) → Nat
  | [] => 0
  | k :: l => k.weight + total l

/-- Each element is linked once and every weight is positive. -/
structure Wf (l : List (WLink α)) : Prop where
  nodup : (l.map WLink.self).Nodup
  pos : ∀ k ∈ l, 0 < k.weight

attribute [local simp] weight has bump drop

/-! ## Membership -/

omit [DecidableEq α] in
@[simp] theorem wf_nil : Wf ([] : List (WLink α)) := ⟨List.nodup_nil, by simp⟩

omit [DecidableEq α] in
theorem wf_cons {k : WLink α} {l : List (WLink α)} :
    Wf (k :: l) ↔ (∀ j ∈ l, j.self ≠ k.self) ∧ 0 < k.weight ∧ Wf l := by
  constructor
  · intro h
    have hnd := h.nodup
    rw [List.map_cons, List.nodup_cons] at hnd
    refine ⟨fun j hj heq => hnd.1 (heq ▸ List.mem_map_of_mem hj), h.pos k List.mem_cons_self,
      hnd.2, fun j hj => h.pos j (List.mem_cons_of_mem _ hj)⟩
  · rintro ⟨hne, hpos, hl⟩
    refine ⟨?_, ?_⟩
    · rw [List.map_cons, List.nodup_cons]
      refine ⟨fun hmem => ?_, hl.nodup⟩
      obtain ⟨j, hj, heq⟩ := List.mem_map.mp hmem
      exact hne j hj heq
    · intro j hj
      rcases List.mem_cons.mp hj with rfl | hj
      · exact hpos
      · exact hl.pos j hj

theorem has_iff : has l x = true ↔ ∃ k ∈ l, k.self = x := by
  induction l with
  | nil => simp [has]
  | cons k l ih =>
    rw [has]
    by_cases hk : k.self = x
    · simp [hk]
    · simp [hk, ih]

theorem weight_eq_zero_of_not_has (h : has l x = false) : weight l x = 0 := by
  induction l with
  | nil => rfl
  | cons k l ih =>
    rw [has] at h
    by_cases hk : k.self = x
    · simp [hk] at h
    · rw [weight, if_neg hk]
      exact ih (by simpa [hk] using h)

theorem has_iff_weight_pos (hl : Wf l) {x : α} : has l x = true ↔ 0 < weight l x := by
  induction l with
  | nil => simp [has, weight]
  | cons k l ih =>
    obtain ⟨-, hpos, hl⟩ := wf_cons.mp hl
    rw [has, weight]
    by_cases hk : k.self = x
    · simp [hk, hpos]
    · simp [hk, ih hl]

/-! ## Putting in and taking out -/

theorem weight_bump (l : List (WLink α)) (x y : α) :
    weight (bump l x) y = weight l y + if y = x then 1 else 0 := by
  induction l with
  | nil =>
    by_cases hy : y = x
    · simp [bump, weight, hy]
    · simp [bump, weight, hy, Ne.symm hy]
  | cons k l ih =>
    rw [bump]
    by_cases hk : k.self = x
    · rw [if_pos hk, weight, weight]
      by_cases hy : k.self = y
      · simp [hy, ← hk]
      · have hyx : y ≠ x := fun h => hy (hk.trans h.symm)
        simp [hy, hyx]
    rw [if_neg hk, weight, weight, ih]
    by_cases hy : k.self = y
    · have hyx : y ≠ x := fun h => hk (hy.trans h)
      simp [hy, hyx]
    · simp [hy]

theorem total_bump (l : List (WLink α)) (x : α) : total (bump l x) = total l + 1 := by
  induction l with
  | nil => rfl
  | cons k l ih =>
    rw [bump]
    split
    · simp only [total]
      omega
    · simp only [total, ih]
      omega

theorem mem_bump_self (hk : k ∈ bump l x) : k.self = x ∨ ∃ j ∈ l, j.self = k.self := by
  induction l with
  | nil =>
    rw [bump, List.mem_singleton] at hk
    exact .inl (by rw [hk])
  | cons j l ih =>
    rw [bump] at hk
    split at hk
    next hj =>
      rcases List.mem_cons.mp hk with rfl | hk
      · exact .inl hj
      · exact .inr ⟨k, List.mem_cons_of_mem _ hk, rfl⟩
    rcases List.mem_cons.mp hk with rfl | hk
    · exact .inr ⟨k, List.mem_cons_self, rfl⟩
    rcases ih hk with h | ⟨i, hi, h⟩
    · exact .inl h
    · exact .inr ⟨i, List.mem_cons_of_mem _ hi, h⟩

theorem Wf.bump (hl : Wf l) {x : α} : Wf (bump l x) := by
  induction l with
  | nil => exact wf_cons.mpr ⟨by simp, Nat.one_pos, wf_nil⟩
  | cons k l ih =>
    obtain ⟨hne, hpos, hl⟩ := wf_cons.mp hl
    rw [WList.bump]
    split
    · exact wf_cons.mpr ⟨hne, Nat.succ_pos _, hl⟩
    rename_i hk
    refine wf_cons.mpr ⟨fun j hj => ?_, hpos, ih hl⟩
    rcases mem_bump_self hj with h | ⟨i, hi, h⟩
    · rw [h]
      exact fun hx => hk hx.symm
    · rw [← h]
      exact hne i hi

theorem has_bump (l : List (WLink α)) (x y : α) :
    has (bump l x) y = (has l y || decide (y = x)) := by
  induction l with
  | nil =>
    by_cases hy : y = x
    · simp [bump, has, hy]
    · simp [bump, has, hy, Ne.symm hy]
  | cons k l ih =>
    rw [bump]
    by_cases hk : k.self = x
    · rw [if_pos hk, has, has]
      by_cases hy : k.self = y
      · simp [hy]
      · have hyx : y ≠ x := fun h => hy (hk.trans h.symm)
        simp [hy, hyx]
    · rw [if_neg hk, has, has, ih]
      by_cases hy : k.self = y <;> simp [hy]

theorem drop_bump (hl : Wf l) (x : α) : drop (bump l x) x = l := by
  induction l with
  | nil => simp [bump, drop]
  | cons k l ih =>
    obtain ⟨-, hpos, hl⟩ := wf_cons.mp hl
    rw [bump]
    by_cases hk : k.self = x
    · rw [if_pos hk, drop]
      simp [hk, Nat.ne_of_gt hpos]
      rw [← hk]
    · rw [if_neg hk, drop, if_neg hk, ih hl]

/-- Raising one weight does not matter to lowering another. -/
theorem drop_bump_of_ne {y : α} (h : x ≠ y) : drop (bump l y) x = bump (drop l x) y := by
  induction l with
  | nil => simp [bump, drop, Ne.symm h]
  | cons k l ih =>
    by_cases hk : k.self = y
    · simp [bump, drop, hk, Ne.symm h]
    by_cases hx : k.self = x
    · rw [bump, if_neg hk, drop, if_pos hx, drop, if_pos hx]
      split
      · rw [bump, if_neg hk]
      split
      · rfl
      · rw [bump, if_neg hk]
    · rw [bump, if_neg hk, drop, if_neg hx, drop, if_neg hx, bump, if_neg hk, ih]

theorem drop_of_not_has (h : has l x = false) : drop l x = l := by
  induction l with
  | nil => rfl
  | cons k l ih =>
    rw [has] at h
    by_cases hk : k.self = x
    · simp [hk] at h
    · rw [drop, if_neg hk, ih (by simpa [hk] using h)]

theorem mem_drop_self (hk : k ∈ drop l x) : ∃ j ∈ l, j.self = k.self := by
  induction l with
  | nil => simp [drop] at hk
  | cons j l ih =>
    rw [drop] at hk
    split at hk
    · split at hk
      · exact ⟨k, hk, rfl⟩
      split at hk
      · exact ⟨k, List.mem_cons_of_mem _ hk, rfl⟩
      rcases List.mem_cons.mp hk with rfl | hk
      · exact ⟨j, List.mem_cons_self, rfl⟩
      · exact ⟨k, List.mem_cons_of_mem _ hk, rfl⟩
    · rcases List.mem_cons.mp hk with rfl | hk
      · exact ⟨k, List.mem_cons_self, rfl⟩
      · obtain ⟨i, hi, h⟩ := ih hk
        exact ⟨i, List.mem_cons_of_mem _ hi, h⟩

theorem Wf.drop (hl : Wf l) {x : α} : Wf (drop l x) := by
  induction l with
  | nil => exact wf_nil
  | cons k l ih =>
    obtain ⟨hne, hpos, hl⟩ := wf_cons.mp hl
    rw [WList.drop]
    split
    · split
      · exact wf_cons.mpr ⟨hne, hpos, hl⟩
      split
      · exact hl
      · exact wf_cons.mpr ⟨hne, by show 0 < k.weight - 1; omega, hl⟩
    refine wf_cons.mpr ⟨fun j hj => ?_, hpos, ih hl⟩
    obtain ⟨i, hi, h⟩ := mem_drop_self hj
    rw [← h]
    exact hne i hi

theorem weight_drop (hl : Wf l) (x y : α) :
    weight (drop l x) y = weight l y - if y = x then 1 else 0 := by
  induction l with
  | nil => simp [drop, weight]
  | cons k l ih =>
    obtain ⟨hne, hpos, hl⟩ := wf_cons.mp hl
    have hk0 : k.weight ≠ 0 := by omega
    rw [drop]
    by_cases hk : k.self = x
    · rw [if_pos hk, if_neg hk0]
      by_cases hk1 : k.weight = 1
      · rw [if_pos hk1, weight]
        by_cases hy : k.self = y
        · have hz : weight l y = 0 := by
            refine weight_eq_zero_of_not_has ?_
            rw [← Bool.not_eq_true, has_iff]
            rintro ⟨j, hj, hjy⟩
            exact hne j hj (hjy.trans hy.symm)
          simp [hy, hk1, hz, ← hk]
        · have hyx : y ≠ x := fun h => hy (hk.trans h.symm)
          simp [hy, hyx]
      · rw [if_neg hk1, weight, weight]
        by_cases hy : k.self = y
        · simp [hy, ← hk]
        · have hyx : y ≠ x := fun h => hy (hk.trans h.symm)
          simp [hy, hyx]
    · rw [if_neg hk, weight, weight, ih hl]
      by_cases hy : k.self = y
      · have hyx : y ≠ x := fun h => hk (hy.trans h)
        simp [hy, hyx]
      · simp [hy]

theorem total_drop (hl : Wf l) {x : α} (hx : has l x = true) : total (drop l x) + 1 = total l := by
  induction l with
  | nil => simp [has] at hx
  | cons k l ih =>
    obtain ⟨-, hpos, hl⟩ := wf_cons.mp hl
    rw [drop]
    by_cases hk : k.self = x
    · rw [if_pos hk, if_neg (by omega : k.weight ≠ 0)]
      split
      next hk1 =>
        simp only [total]
        omega
      · simp only [total]
        omega
    · rw [if_neg hk]
      have := ih hl (by simpa [has, hk] using hx)
      simp only [total]
      omega

theorem weight_le_total (l : List (WLink α)) (x : α) : weight l x ≤ total l := by
  induction l with
  | nil => simp [weight]
  | cons k l ih =>
    rw [weight, total]
    split <;> omega

omit [DecidableEq α] in
theorem total_eq_zero {l : List (WLink α)} (hl : Wf l) : total l = 0 ↔ l = [] := by
  cases l with
  | nil => simp [total]
  | cons k l =>
    have := (wf_cons.mp hl).2.1
    simp only [total, reduceCtorEq, iff_false]
    omega

end WList

end OpxSai
