import Mathlib.Data.List.Nodup
import OpxSai.Lib.MultiMap

/-!
# Indexes

A multi-value map that indexes its values by a key of their own: a value is under
its key, once, and under no other (`IndexOf`). Unlike a multi-value map in general,
an index drops a key with its last value.

* `IndexOf.insert`, `IndexOf.remove` — a value joins under a key and leaves it;
* `IndexOf.mem_unique` — no value is under two keys.
-/

namespace OpxSai

namespace MultiMap

variable {K V : Type} [DecidableEq K] [DecidableEq V]

/-- Take a value off the list under a key, and the key away with the last value. -/
def remove (m : MultiMap K V) (k : K) (v : V) : MultiMap K V := fun j =>
  if j = k then
    if (m.values k).erase v = [] then none else some ((m.values k).erase v)
  else m j

theorem values_remove (m : MultiMap K V) (k j : K) (v : V) :
    (m.remove k v).values j = if j = k then (m.values k).erase v else m.values j := by
  unfold values remove
  split
  · split
    next hnil => exact hnil.symm
    · rfl
  · rfl

theorem remove_ne_none {m : MultiMap K V} {j : K} {l : List V} {v : V} (hl : m j = some l)
    (hnil : l ≠ []) (hne : l ≠ [v]) {k : K} : m.remove k v j ≠ none := by
  have hval : m.values j = l := by
    unfold values
    rw [hl]
    rfl
  unfold remove
  split
  next hj =>
    rw [← hj, hval, if_neg (by simp [List.erase_eq_nil_iff, hnil, hne])]
    simp
  · rw [hl]
    simp

omit [DecidableEq K] [DecidableEq V] in
/-- The map sends exactly the values with a key to their key. -/
structure IndexOf (m : MultiMap K V) (key : V → Option K) : Prop where
  nonempty : ∀ k l, m k = some l → l ≠ []
  nodup : ∀ k, (m.values k).Nodup
  mem : ∀ k v, v ∈ m.values k ↔ key v = some k

namespace IndexOf

variable {m : MultiMap K V} {key key' : V → Option K}

omit [DecidableEq K] [DecidableEq V] in
theorem congr (h : IndexOf m key) (hkey : ∀ v, key' v = key v) : IndexOf m key' :=
  ⟨h.nonempty, h.nodup, fun k v => by rw [hkey, h.mem]⟩

omit [DecidableEq K] in
theorem count_eq_one (h : IndexOf m key) (k : K) (v : V) :
    (m.values k).count v = 1 ↔ key v = some k := by
  constructor
  · intro hone
    exact (h.mem k v).mp (List.count_pos_iff.mp (by omega))
  · intro hkey
    exact List.count_eq_one_of_mem (h.nodup k) ((h.mem k v).mpr hkey)

omit [DecidableEq K] [DecidableEq V] in
theorem mem_unique (h : IndexOf m key) {j k} {v} (hj : v ∈ m.values j)
    (hk : v ∈ m.values k) : j = k := by
  have hj := (h.mem j v).mp hj
  have hk := (h.mem k v).mp hk
  exact Option.some.inj (hj.symm.trans hk)

theorem insert (h : IndexOf m key) {v} (hv : key v = none) (k : K)
    (hkey : ∀ w, key' w = if w = v then some k else key w) : IndexOf (m.insert k v) key' := by
  have hout : ∀ j, v ∉ m.values j := fun j hmem => by
    rw [h.mem, hv] at hmem
    simp at hmem
  refine ⟨fun j l hl => ?_, fun j => ?_, fun j w => ?_⟩
  · rw [insert_apply] at hl
    split at hl
    · cases hl
      simp
    · exact h.nonempty j l hl
  · rw [values_insert]
    split
    · rw [← List.concat_eq_append]
      exact List.Nodup.concat (hout k) (h.nodup k)
    · exact h.nodup j
  · rw [values_insert, hkey]
    by_cases hw : w = v
    · rw [if_pos hw, hw]
      by_cases hj : j = k
      · simp [hj]
      · have hne : ¬ k = j := fun heq => hj heq.symm
        simp [hj, hne, hout j]
    rw [if_neg hw]
    by_cases hj : j = k
    · rw [if_pos hj, hj, List.mem_append, h.mem]
      simp [hw]
    · rw [if_neg hj, h.mem]

theorem remove (h : IndexOf m key) {v} {k} (hv : key v = some k)
    (hkey : ∀ w, key' w = if w = v then none else key w) : IndexOf (m.remove k v) key' := by
  refine ⟨fun j l hl => ?_, fun j => ?_, fun j w => ?_⟩
  · unfold MultiMap.remove at hl
    split at hl
    · split at hl
      · simp at hl
      rename_i hne
      cases hl
      exact hne
    · exact h.nonempty j l hl
  · rw [values_remove]
    split
    · exact (h.nodup k).erase v
    · exact h.nodup j
  · rw [values_remove, hkey]
    by_cases hw : w = v
    · rw [if_pos hw, hw]
      split
      · simp [(h.nodup k).mem_erase_iff]
      rename_i hj
      rw [h.mem, hv]
      have hne : ¬ k = j := fun heq => hj heq.symm
      simp [hne]
    · rw [if_neg hw]
      split
      next hj => rw [List.mem_erase_of_ne hw, h.mem, hj]
      · exact h.mem j w

end IndexOf

end MultiMap

end OpxSai
