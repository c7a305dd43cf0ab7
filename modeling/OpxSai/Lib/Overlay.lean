import Mathlib.Data.List.Induction

/-!
# Entries laid over a table

A table of cells, and entries that are written to it in their order. An entry goes to one cell, and
what it puts there covers what an earlier entry put there.

* `overlay` — the entries are written;
* `overlay_getElem?` — a cell has what the last entry for it put there;
* `overlay_overlay` — the same entries a second time change nothing.
-/

namespace OpxSai

section Overlay

variable {E C : Type} (index : E → Nat) (put : E → C → C)

def overlay (table : List C) (entries : List E) : List C :=
  entries.foldl (fun t e => t.modify (index e) (put e)) table

def lastFor (i : Nat) (entries : List E) : Option E :=
  entries.reverse.find? fun e => index e = i

/-- What an entry puts in a cell covers what another put there. -/
def Covers : Prop := ∀ e e' c, put e (put e' c) = put e c

@[simp] theorem overlay_nil (table) : overlay index put table [] = table := rfl

theorem overlay_cons (table) (e) (entries) :
    overlay index put table (e :: entries) =
      overlay index put (table.modify (index e) (put e)) entries := rfl

theorem overlay_concat (table) (entries) (e) :
    overlay index put table (entries ++ [e]) =
      (overlay index put table entries).modify (index e) (put e) := by
  unfold overlay
  rw [List.foldl_append]
  rfl

theorem lastFor_concat (i : Nat) (entries) (e) :
    lastFor index i (entries ++ [e]) = if index e = i then some e else lastFor index i entries := by
  unfold lastFor
  rw [List.reverse_append, List.reverse_singleton, List.singleton_append, List.find?_cons]
  by_cases he : index e = i <;> simp [he]

variable {put}

/-- **The last entry for a cell wins**, and a cell without an entry is left. -/
theorem overlay_getElem? (hput : Covers put) (table) (entries) (i : Nat) :
    (overlay index put table entries)[i]? =
      (table[i]?).map fun c => (lastFor index i entries).elim c fun e => put e c := by
  induction entries using List.reverseRecOn with
  | nil => simp [lastFor]
  | append_singleton entries e ih =>
    rw [overlay_concat, List.getElem?_modify, ih, lastFor_concat]
    by_cases he : index e = i
    · rw [if_pos he]
      cases htable : table[i]? with
      | none => simp
      | some c =>
        cases hlast : lastFor index i entries with
        | none => simp [he]
        | some e' => simp [he, hput e e' c]
    · rw [if_neg he]
      simp [he]

/-- The same entries a second time change nothing. -/
theorem overlay_overlay (hput : Covers put) (table) (entries) :
    overlay index put (overlay index put table entries) entries =
      overlay index put table entries := by
  refine List.ext_getElem? fun i => ?_
  rw [overlay_getElem? _ hput, overlay_getElem? _ hput, Option.map_map]
  cases hlast : lastFor index i entries with
  | none => rfl
  | some e =>
    congr 1
    funext c
    exact hput e e c

end Overlay

/-! ## The last value that is read off a list -/

theorem lastSome_cons {α β : Type} (f : α → Option β) (a : α) (l : List α) (b : β) :
    ((a :: l).reverse.findSome? f).getD b = (l.reverse.findSome? f).getD ((f a).getD b) := by
  rw [List.reverse_cons, List.findSome?_append]
  cases l.reverse.findSome? f with
  | some b' => rfl
  | none => cases hf : f a <;> simp [hf]

end OpxSai
