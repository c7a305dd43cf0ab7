import Mathlib.Data.List.Basic

/-!
# Multi-value maps

A map from a key to the list of values inserted under it, in insertion order.
A key may be present with no value left: removing elements keeps the key, and
only `delete` drops it.
-/

namespace OpxSai

abbrev MultiMap (K V : Type) := K → Option (List V)

namespace MultiMap

variable {K V : Type} [DecidableEq K]

variable (m : MultiMap K V) (k j : K) (v : V)

def insert (m : MultiMap K V) (k : K) (v : V) : MultiMap K V := fun j =>
  if j = k then some ((m k).getD [] ++ [v]) else m j

def delete (m : MultiMap K V) (k : K) : MultiMap K V := fun j =>
  if j = k then none else m j

/-- Remove the values under `k` that `p` accepts. -/
def deleteElements (m : MultiMap K V) (k : K) (p : V → Bool) : MultiMap K V := fun j =>
  if j = k then (m k).map (List.filter fun v => !p v) else m j

omit [DecidableEq K] in
/-- The values under a key, none when it is absent. -/
def values (m : MultiMap K V) (k : K) : List V := (m k).getD []

omit [DecidableEq K] in
/-- The first value under a key: what a lookup into a buffer of one entry returns. -/
def first (m : MultiMap K V) (k : K) : Option V := (m.values k).head?

theorem insert_apply : m.insert k v j = if j = k then some (m.values k ++ [v]) else m j := rfl

theorem insert_self : m.insert k v k = some (m.values k ++ [v]) := by
  simp [insert_apply]

theorem insert_of_ne {k j : K} (v : V) (h : j ≠ k) : m.insert k v j = m j := by
  simp [insert_apply, h]

theorem delete_apply : m.delete k j = if j = k then none else m j := rfl

theorem delete_of_ne {k j : K} (h : j ≠ k) : m.delete k j = m j := by
  simp [delete_apply, h]

theorem deleteElements_of_ne {k j : K} (p : V → Bool) (h : j ≠ k) : m.deleteElements k p j = m j := by
  simp [deleteElements, h]

theorem values_insert : (m.insert k v).values j = if j = k then m.values k ++ [v] else m.values j := by
  unfold values
  rw [insert_apply]
  split <;> rfl

theorem values_delete : (m.delete k).values j = if j = k then [] else m.values j := by
  unfold values
  rw [delete_apply]
  split <;> rfl

end MultiMap

end OpxSai
