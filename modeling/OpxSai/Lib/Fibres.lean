import Mathlib.Data.List.Nodup

/-!
# Lists of the values of a key

A list for each key, with the values that have this key, each once. A value may have no key, and is on no
list then.

* `Fibres.append`, `Fibres.erase` — a value takes a key and loses it;
* `Fibres.requeue` — a value joins a list and leaves it again.
-/

namespace OpxSai

/-- Each list has the values of its key, each once. -/
structure Fibres {K V : Type} (lists : K → List V) (key : V → Option K) : Prop where
  nodup : ∀ k, (lists k).Nodup
  mem : ∀ k v, v ∈ lists k ↔ key v = some k

namespace Fibres

variable {K V : Type} {lists : K → List V} {key : V → Option K}

variable [DecidableEq K] [DecidableEq V]

theorem append (h : Fibres lists key) {v : V} (hv : key v = none) (k : K) :
    Fibres (fun j => if j = k then lists j ++ [v] else lists j)
      fun w => if w = v then some k else key w := by
  have hnew : ∀ j, v ∉ lists j := by
    intro j hin
    rw [h.mem, hv] at hin
    cases hin
  refine ⟨fun j => ?_, fun j w => ?_⟩
  · split
    · refine List.nodup_append.mpr ⟨h.nodup j, List.nodup_singleton v, ?_⟩
      intro a ha b hb heq
      rw [List.mem_singleton.mp hb] at heq
      exact hnew j (heq ▸ ha)
    · exact h.nodup j
  · by_cases hw : w = v
    · rw [hw, if_pos rfl]
      split
      next hj => simp [hj]
      rename_i hj
      refine iff_of_false (hnew j) fun heq => hj ?_
      exact (Option.some.inj heq).symm
    · rw [if_neg hw, ← h.mem]
      split
      · simp [hw]
      · exact Iff.rfl

theorem erase [BEq V] [LawfulBEq V] (h : Fibres lists key) {v : V} {k : K} (hv : key v = some k) :
    Fibres (fun j => if j = k then (lists j).erase v else lists j)
      fun w => if w = v then none else key w := by
  refine ⟨fun j => ?_, fun j w => ?_⟩
  · split
    · exact (h.nodup j).erase v
    · exact h.nodup j
  · by_cases hw : w = v
    · rw [hw, if_pos rfl]
      refine iff_of_false ?_ (by simp)
      split
      · exact (h.nodup j).not_mem_erase
      rename_i hj
      rw [h.mem, hv]
      exact fun heq => hj (Option.some.inj heq).symm
    · rw [if_neg hw, ← h.mem]
      split
      · exact List.mem_erase_of_ne hw
      · exact Iff.rfl

theorem requeue [BEq V] [LawfulBEq V] (h : Fibres lists key) (v : V) (k : K) :
    Fibres (fun j => if j = k then (lists j ++ [v]).erase v else lists j) key := by
  have hperm : ∀ j, ((lists j ++ [v]).erase v).Perm (lists j) := by
    intro j
    have hcons : (lists j ++ [v]).Perm (v :: lists j) := List.perm_append_comm
    have herase := hcons.erase v
    rwa [List.erase_cons_head] at herase
  refine ⟨fun j => ?_, fun j w => ?_⟩
  · split
    · exact (hperm j).nodup_iff.mpr (h.nodup j)
    · exact h.nodup j
  · split
    · rw [(hperm j).mem_iff, h.mem]
    · exact h.mem j w

end Fibres

end OpxSai
