import Mathlib.Data.List.Sort

/-!
# Insertion into a sorted list

A list library inserts by a comparison that its user supplies. All that is known of it: it adds
the new element and nothing else, and a list that is sorted stays sorted.

* `SortedInsert` — such an insertion;
* `SortedInsert.ordered` — the one of the list library.
-/

namespace OpxSai

structure SortedInsert (α : Type) where
  insert : (α → α → Ordering) → α → List α → List α
  perm : ∀ cmp a l, (insert cmp a l).Perm (a :: l)
  sorted : ∀ (key : α → Nat) a l, l.Pairwise (fun x y => key x ≤ key y) →
    (insert (fun x y => compare (key x) (key y)) a l).Pairwise fun x y => key x ≤ key y

namespace SortedInsert

variable {α : Type} (ins : SortedInsert α) (cmp : α → α → Ordering)

theorem mem (a b : α) (l : List α) : b ∈ ins.insert cmp a l ↔ b = a ∨ b ∈ l :=
  (ins.perm cmp a l).mem_iff.trans List.mem_cons

theorem nodup {a : α} {l : List α} (ha : a ∉ l) (hl : l.Nodup) : (ins.insert cmp a l).Nodup :=
  (ins.perm cmp a l).nodup_iff.mpr (List.nodup_cons.mpr ⟨ha, hl⟩)

theorem length (a : α) (l : List α) : (ins.insert cmp a l).length = l.length + 1 :=
  (ins.perm cmp a l).length_eq

/-- Insertion before the first element that does not come earlier. -/
def ordered (α : Type) : SortedInsert α where
  insert := fun cmp => List.orderedInsert fun x y => cmp x y ≠ .gt
  perm := fun cmp a l => List.perm_orderedInsert _ a l
  sorted := by
    intro key a l hl
    have hle : ∀ x y, compare (key x) (key y) ≠ .gt ↔ key x ≤ key y := by
      intro x y
      rw [Ne, Nat.compare_eq_gt, Nat.not_lt]
    have htotal : Std.Total fun x y => compare (key x) (key y) ≠ .gt :=
      ⟨fun x y => by simp only [hle]; exact Nat.le_total _ _⟩
    have htrans : IsTrans α fun x y => compare (key x) (key y) ≠ .gt :=
      ⟨fun x y z hxy hyz => by simp only [hle] at *; exact Nat.le_trans hxy hyz⟩
    have hsorted : l.Pairwise fun x y => compare (key x) (key y) ≠ .gt := by
      simpa only [hle] using hl
    simpa only [hle] using hsorted.orderedInsert a l

end SortedInsert

end OpxSai
