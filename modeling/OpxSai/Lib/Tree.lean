import Mathlib.Data.List.MinMax
import Mathlib.Data.List.Nodup
import Mathlib.Data.Prod.Lex
import Mathlib.Data.Set.Card

/-!
# Keyed trees

What a radix tree or a red-black tree is to its caller: a list of entries with
pairwise distinct keys (`Tree.Keyed`), with exact lookup, insertion and removal.
Two kinds of search go beyond the exact key:

* the **ordered successor** of a key under a rank (`getNext`), and the walk that
  follows it while a condition holds (`walk`);
* the **longest prefix match** of a bit string (`getBest`), and the walk up through
  the entries that cover a key (`lessSpecifics`).
-/

namespace OpxSai

namespace Tree

variable {K V R : Type}

/-! ## Exact lookup -/

section Exact

variable [DecidableEq K]

def find : List (K × V) → K → Option V
  | [], _ => none
  | e :: t, k => if e.1 = k then some e.2 else find t k

def insert (t : List (K × V)) (k : K) (v : V) : List (K × V) := t ++ [(k, v)]

def erase (t : List (K × V)) (k : K) : List (K × V) := t.filter fun e => e.1 ≠ k

omit [DecidableEq K] in
def Keyed (t : List (K × V)) : Prop := (t.map Prod.fst).Nodup

theorem mem_of_find {t : List (K × V)} {k : K} {v : V} (h : find t k = some v) :
    (k, v) ∈ t := by
  induction t with
  | nil => simp [find] at h
  | cons e t ih =>
    rw [find] at h
    split at h
    next hk =>
      obtain ⟨rfl⟩ := h
      subst hk
      exact List.mem_cons_self
    · exact List.mem_cons_of_mem _ (ih h)

theorem find_eq_none {t : List (K × V)} {k : K} :
    find t k = none ↔ ∀ v, (k, v) ∉ t := by
  induction t with
  | nil => simp [find]
  | cons e t ih =>
    rw [find]
    split
    next hk =>
      subst hk
      simp only [reduceCtorEq, false_iff]
      intro hno
      exact hno e.2 List.mem_cons_self
    rename_i hk
    rw [ih]
    constructor
    · intro hno v hv
      rcases List.mem_cons.mp hv with rfl | hv
      · exact hk rfl
      · exact hno v hv
    · intro hno v hv
      exact hno v (List.mem_cons_of_mem _ hv)

theorem find_of_mem {t : List (K × V)} (ht : Keyed t) {k : K} {v : V} (h : (k, v) ∈ t) :
    find t k = some v := by
  induction t with
  | nil => simp at h
  | cons e t ih =>
    unfold Keyed at ht
    rw [List.map_cons, List.nodup_cons] at ht
    rw [find]
    rcases List.mem_cons.mp h with rfl | h
    · simp
    have hne : e.1 ≠ k := by
      rintro rfl
      exact ht.1 (List.mem_map.mpr ⟨(e.1, v), h, rfl⟩)
    rw [if_neg hne]
    exact ih ht.2 h

theorem find_eq_some {t : List (K × V)} (ht : Keyed t) {k : K} {v : V} :
    find t k = some v ↔ (k, v) ∈ t :=
  ⟨mem_of_find, find_of_mem ht⟩

omit [DecidableEq K] in
theorem mem_insert {t : List (K × V)} {k : K} {v : V} {e : K × V} :
    e ∈ insert t k v ↔ e ∈ t ∨ e = (k, v) := by
  simp [insert]

theorem mem_erase {t : List (K × V)} {k : K} {e : K × V} :
    e ∈ erase t k ↔ e ∈ t ∧ e.1 ≠ k := by
  simp [erase]

theorem Keyed.insert {t : List (K × V)} (ht : Keyed t) {k : K} (v)
    (hk : find t k = none) : Keyed (insert t k v) := by
  have hnot : k ∉ t.map Prod.fst := by
    intro hmem
    obtain ⟨e, he, rfl⟩ := List.mem_map.mp hmem
    exact find_eq_none.mp hk e.2 he
  unfold Keyed Tree.insert
  rw [List.map_append, List.map_cons, List.map_nil, ← List.concat_eq_append]
  exact List.Nodup.concat hnot ht

theorem Keyed.erase {t : List (K × V)} (ht : Keyed t) (k) : Keyed (erase t k) :=
  ht.sublist (List.filter_sublist.map Prod.fst)

theorem Keyed.eq_of_key {t : List (K × V)} (ht : Keyed t) {k : K} {v w : V}
    (hv : (k, v) ∈ t) (hw : (k, w) ∈ t) : v = w := by
  have := (find_of_mem ht hv).symm.trans (find_of_mem ht hw)
  exact Option.some.inj this

theorem find_insert {t} {k} (hk : find t k = none) (v : V) (j : K) :
    find (insert t k v) j = if j = k then some v else find t j := by
  induction t with
  | nil => simp [insert, find, eq_comm]
  | cons e t ih =>
    rw [find] at hk
    by_cases he : e.1 = k
    · simp [he] at hk
    rw [if_neg he] at hk
    show find (e :: insert t k v) j = _
    rw [find, find]
    by_cases hj : e.1 = j
    · have hne : ¬ j = k := by
        rintro rfl
        exact he hj
      rw [if_pos hj, if_neg hne, if_pos hj]
    · rw [if_neg hj, if_neg hj]
      exact ih hk

theorem find_erase (t : List (K × V)) (k j) :
    find (erase t k) j = if j = k then none else find t j := by
  induction t with
  | nil => simp [erase, find]
  | cons e t ih =>
    unfold erase at ih ⊢
    by_cases he : e.1 = k
    · rw [List.filter_cons_of_neg (by simpa using he), ih, find]
      by_cases hj : j = k
      · rw [if_pos hj, if_pos hj]
      have hne : ¬ e.1 = j := by
        intro heq
        exact hj (heq.symm.trans he)
      rw [if_neg hj, if_neg hj, if_neg hne]
    · rw [List.filter_cons_of_pos (by simpa using he), find, ih, find]
      by_cases hj : j = k
      · have hne : ¬ e.1 = j := by
          intro heq
          exact he (heq.trans hj)
        rw [if_neg hne, if_pos hj, if_pos hj]
      · rw [if_neg hj, if_neg hj]

omit [DecidableEq K] in
theorem countP_insert (t : List (K × V)) (k) (v) (p : V → Bool) :
    (insert t k v).countP (fun e => p e.2) = t.countP (fun e => p e.2) + if p v then 1 else 0 := by
  rw [insert, List.countP_append, List.countP_singleton]

theorem countP_erase {t : List (K × V)} (ht : Keyed t) {k : K} {v : V} (hkv : (k, v) ∈ t)
    (p : V → Bool) :
    t.countP (fun e => p e.2) =
      (erase t k).countP (fun e => p e.2) + if p v then 1 else 0 := by
  induction t with
  | nil => simp at hkv
  | cons e t ih =>
    unfold Keyed at ht
    rw [List.map_cons, List.nodup_cons] at ht
    obtain ⟨hnot, htail⟩ := ht
    unfold erase at ih ⊢
    by_cases he : e.1 = k
    · have hhead : e = (k, v) := by
        rcases List.mem_cons.mp hkv with heq | hmem
        · exact heq.symm
        · exact absurd (List.mem_map.mpr ⟨(k, v), hmem, he.symm⟩) hnot
      have hrest : t.filter (fun f => f.1 ≠ k) = t := by
        refine List.filter_eq_self.mpr fun f hf => ?_
        have hne : f.1 ≠ k := by
          intro heq
          exact hnot (List.mem_map.mpr ⟨f, hf, heq.trans he.symm⟩)
        simpa using hne
      rw [List.filter_cons_of_neg (by simpa using he), hrest, List.countP_cons, hhead]
    · have hmem : (k, v) ∈ t := by
        rcases List.mem_cons.mp hkv with heq | hmem
        · exact absurd (by rw [← heq]) he
        · exact hmem
      rw [List.filter_cons_of_pos (by simpa using he), List.countP_cons, List.countP_cons,
        ih htail hmem]
      omega

def modify (t : List (K × V)) (k : K) (f : V → V) : List (K × V) :=
  t.map fun e => if e.1 = k then (e.1, f e.2) else e

theorem keys_modify (t : List (K × V)) (k) (f : V → V) :
    (modify t k f).map Prod.fst = t.map Prod.fst := by
  rw [modify, List.map_map]
  refine List.map_congr_left fun e _ => ?_
  show (if e.1 = k then (e.1, f e.2) else e).1 = e.1
  split <;> rfl

theorem find_modify (t : List (K × V)) (k j) (f : V → V) :
    find (modify t k f) j = if j = k then (find t j).map f else find t j := by
  induction t with
  | nil =>
    show none = if j = k then none else none
    split <;> rfl
  | cons e t ih =>
    have hkey : (if e.1 = k then (e.1, f e.2) else e).1 = e.1 := by split <;> rfl
    show find ((if e.1 = k then (e.1, f e.2) else e) :: modify t k f) j = _
    rw [find, find, hkey]
    by_cases hj : e.1 = j
    · rw [if_pos hj, if_pos hj, hj]
      split <;> rfl
    · rw [if_neg hj, if_neg hj, ih]

theorem countP_modify (t : List (K × V)) (k) {f : V → V} {p : V → Bool} (hp : ∀ v, p (f v) = p v) :
    (modify t k f).countP (fun e => p e.2) = t.countP fun e => p e.2 := by
  rw [modify, List.countP_map]
  refine List.countP_congr fun e _ => ?_
  show p (if e.1 = k then (e.1, f e.2) else e).2 = true ↔ _
  split
  · rw [hp]
  · rfl

theorem countP_modify_key {t : List (K × V)} (ht : Keyed t) {k : K} {v : V} (hkv : (k, v) ∈ t) (f : V → V)
    (p : V → Bool) :
    ((modify t k f).countP fun e => p e.2) + (if p v then 1 else 0) =
      (t.countP fun e => p e.2) + if p (f v) then 1 else 0 := by
  induction t with
  | nil => cases hkv
  | cons e t ih =>
    unfold Keyed at ht
    rw [List.map_cons, List.nodup_cons] at ht
    obtain ⟨hnot, htail⟩ := ht
    show (((if e.1 = k then (e.1, f e.2) else e) :: modify t k f).countP fun e => p e.2) + _ = _
    rw [List.countP_cons, List.countP_cons]
    rcases List.mem_cons.mp hkv with heq | hmem
    · subst heq
      have hsame : modify t k f = t := by
        refine (List.map_congr_left fun e he => ?_).trans (List.map_id t)
        refine if_neg fun heq => hnot ?_
        exact List.mem_map.mpr ⟨e, he, heq⟩
      rw [hsame, if_pos rfl]
      dsimp only
      omega
    · have hne : e.1 ≠ k := by
        intro heq
        exact hnot (List.mem_map.mpr ⟨(k, v), hmem, heq.symm⟩)
      rw [if_neg hne]
      have hrest := ih htail hmem
      omega

def total (t : List (K × V)) (f : V → Nat) : Nat := (t.map fun e => f e.2).sum

omit [DecidableEq K] in
theorem total_insert (t : List (K × V)) (k) (v) (f : V → Nat) :
    total (insert t k v) f = total t f + f v := by
  simp [total, insert]

theorem total_erase {t : List (K × V)} (ht : Keyed t) {k : K} {v : V} (hkv : (k, v) ∈ t) (f : V → Nat) :
    total t f = total (erase t k) f + f v := by
  induction t with
  | nil => cases hkv
  | cons e t ih =>
    unfold Keyed at ht
    rw [List.map_cons, List.nodup_cons] at ht
    obtain ⟨hnot, htail⟩ := ht
    show f e.2 + total t f = _
    rcases List.mem_cons.mp hkv with heq | hmem
    · subst heq
      have hrest : erase ((k, v) :: t) k = t := by
        unfold erase
        rw [List.filter_cons_of_neg (by simp)]
        refine List.filter_eq_self.mpr fun e he => ?_
        have hne : e.1 ≠ k := by
          intro heq
          exact hnot (List.mem_map.mpr ⟨e, he, heq⟩)
        simpa using hne
      rw [hrest, Nat.add_comm]
    · have hne : e.1 ≠ k := by
        intro heq
        exact hnot (List.mem_map.mpr ⟨(k, v), hmem, heq.symm⟩)
      have hrest : erase (e :: t) k = e :: erase t k := by
        unfold erase
        rw [List.filter_cons_of_pos (by simpa using hne)]
      rw [hrest, ih htail hmem]
      show _ = f e.2 + total (erase t k) f + f v
      omega

omit [DecidableEq K] in
theorem total_eq_zero {t : List (K × V)} {f : V → Nat} : total t f = 0 ↔ ∀ e ∈ t, f e.2 = 0 := by
  rw [total, List.sum_eq_zero_iff_forall_eq_nat, List.forall_mem_map]

/-- The keys that lead to one value, counted as a set and counted in the list. -/
theorem ncard_find [DecidableEq V] {t : List (K × V)} (ht : Keyed t) (v) :
    Set.ncard {k | find t k = some v} = t.countP fun e => e.2 = v := by
  have hset : {k | find t k = some v} =
      (((t.filter fun e => e.2 = v).map Prod.fst).toFinset : Set K) := by
    ext k
    simp [find_eq_some ht]
  have hnodup : ((t.filter fun e => e.2 = v).map Prod.fst).Nodup :=
    ht.sublist (List.filter_sublist.map Prod.fst)
  rw [hset, Set.ncard_coe_finset, List.toFinset_card_of_nodup hnodup, List.length_map,
    List.countP_eq_length_filter]

end Exact

/-! ## The ordered successor -/

section Order

variable [LinearOrder R] (rank : K → R)

/-- The entry with the least rank above the rank of `k`. -/
def getNext (t : List (K × V)) (k : K) : Option (K × V) :=
  (t.filter fun e => rank k < rank e.1).argmin fun e => rank e.1

/-- Follow `getNext` from `k` for at most `fuel` entries, as long as `cont` accepts them. -/
def walkFrom (cont : K → Bool) (t : List (K × V)) : Nat → K → List (K × V)
  | 0, _ => []
  | fuel + 1, k =>
    match getNext rank t k with
    | none => []
    | some e => if cont e.1 then e :: walkFrom cont t fuel e.1 else []

def walk (cont : K → Bool) (t : List (K × V)) (k : K) : List (K × V) :=
  walkFrom rank cont t t.length k

variable {rank}

theorem getNext_eq_none {t : List (K × V)} {k : K} :
    getNext rank t k = none ↔ ∀ e ∈ t, ¬ rank k < rank e.1 := by
  simp [getNext, List.argmin_eq_none, List.filter_eq_nil_iff]

theorem getNext_mem {t : List (K × V)} {k : K} {e : K × V} (h : getNext rank t k = some e) :
    e ∈ t ∧ rank k < rank e.1 := by
  have hmem := List.argmin_mem (f := fun e : K × V => rank e.1) h
  simpa using hmem

theorem walkFrom_subset {cont : K → Bool} {t : List (K × V)} {fuel : Nat} {k : K}
    {e : K × V} (h : e ∈ walkFrom rank cont t fuel k) :
    e ∈ t ∧ rank k < rank e.1 ∧ cont e.1 = true := by
  induction fuel generalizing k with
  | zero => simp [walkFrom] at h
  | succ fuel ih =>
    rw [walkFrom] at h
    cases hn : getNext rank t k with
    | none => simp [hn] at h
    | some m =>
      obtain ⟨hm, hkm⟩ := getNext_mem hn
      simp only [hn] at h
      split at h
      next hc =>
        rcases List.mem_cons.mp h with rfl | h
        · exact ⟨hm, hkm, hc⟩
        · obtain ⟨he, hme, hce⟩ := ih h
          exact ⟨he, lt_trans hkm hme, hce⟩
      · simp at h

end Order

/-! ## Prefixes -/

section Prefix

/-- The entry with the longest key that is a prefix of `k`. -/
def getBest (t : List (List Bool × V)) (k : List Bool) : Option (List Bool × V) :=
  (t.filter fun e => e.1 <+: k).argmax fun e => e.1.length

/-- The entry with the longest key that is a proper prefix of `k`. -/
def getLessSpecific (t : List (List Bool × V)) (k : List Bool) : Option (List Bool × V) :=
  (t.filter fun e => e.1 <+: k ∧ e.1 ≠ k).argmax fun e => e.1.length

/-- Follow `getLessSpecific` for at most `fuel` entries. -/
def lessSpecificsFrom (t : List (List Bool × V)) : Nat → List Bool → List (List Bool × V)
  | 0, _ => []
  | fuel + 1, k =>
    match getLessSpecific t k with
    | none => []
    | some e => e :: lessSpecificsFrom t fuel e.1

/-- The entries that cover `k`, from the longest to the shortest. Each is shorter than the
one before, so `k.length` bounds their number. -/
def lessSpecifics (t : List (List Bool × V)) (k : List Bool) : List (List Bool × V) :=
  lessSpecificsFrom t k.length k

end Prefix

end Tree

end OpxSai
