import Mathlib.Algebra.BigOperators.Group.Finset.Basic
import Mathlib.Algebra.BigOperators.Group.Finset.Piecewise
import Mathlib.Algebra.Order.BigOperators.Group.Finset
import Mathlib.Data.Set.Card

/-!
# Heaps of nodes

A heap hands out one new address for each node it allocates and never hands an
address out twice. So an address that outlives its node reads as `none` for
ever, and "this pointer dangles" is a property one can state.

* `Heap.alloc`, `Heap.free`, `Heap.modify`, `Heap.map` — the four operations;
* `Heap.frees` — how often an address was freed (a ghost: no operation reads it);
* `Heap.sum` — the sum of a weight over the live nodes, with one lemma for each
  operation that says how the sum moves.
-/

namespace OpxSai

variable {p : Nat}

/-- Nodes of type `α` at natural-number addresses; nothing lives at or above `brk`. -/
structure Heap (α : Type) where
  cell : Nat → Option α
  brk : Nat
  frees : Nat → Nat
  fresh : ∀ p, brk ≤ p → cell p = none

namespace Heap

variable {α β : Type}

variable {f : α → β} {g : α → α} (h : Heap α) (a : α)

/-- The heap without a node. Address 0 is left out: it stands for `NULL`. -/
def empty : Heap α :=
  { cell := fun _ => none, brk := 1, frees := fun _ => 0, fresh := fun _ _ => rfl }

def get (h : Heap α) (p : Nat) : Option α := h.cell p

/-- The address `alloc` is about to hand out. -/
def next (h : Heap α) : Nat := h.brk

def alloc (h : Heap α) (a : α) : Heap α where
  cell  := fun q => if q = h.brk then some a else h.cell q
  brk   := h.brk + 1
  frees := h.frees
  fresh := by
    intro p hp
    rw [if_neg (by omega), h.fresh p (by omega)]

def free (h : Heap α) (p : Nat) : Heap α where
  cell  := fun q => if q = p then none else h.cell q
  brk   := h.brk
  frees := fun q => if q = p then h.frees q + 1 else h.frees q
  fresh := by
    intro q hq
    split
    · rfl
    · exact h.fresh q hq

def modify (h : Heap α) (p : Nat) (f : α → α) : Heap α where
  cell  := fun q => if q = p then (h.cell q).map f else h.cell q
  brk   := h.brk
  frees := h.frees
  fresh := by
    intro q hq
    rw [h.fresh q hq]
    split <;> rfl

def map (h : Heap α) (f : α → β) : Heap β where
  cell  := fun q => (h.cell q).map f
  brk   := h.brk
  frees := h.frees
  fresh := by
    intro q hq
    rw [h.fresh q hq]
    rfl

/-! ## Reading after writing -/

@[simp] theorem get_empty (p : Nat) : (empty : Heap α).get p = none := rfl

@[simp] theorem get_next : h.get h.next = none := h.fresh _ (Nat.le_refl _)

theorem get_alloc (q : Nat) : (h.alloc a).get q = if q = h.next then some a else h.get q := rfl

@[simp] theorem get_alloc_next : (h.alloc a).get h.next = some a := by
  simp [get_alloc]

theorem get_alloc_of_ne {q : Nat} (hq : q ≠ h.next) : (h.alloc a).get q = h.get q := by
  simp [get_alloc, hq]

theorem ne_next_of_get {h : Heap α} {a : α} (hp : h.get p = some a) : p ≠ h.next := by
  rintro rfl
  simp at hp

theorem get_alloc_of_get {h : Heap α} {a b : α} (hp : h.get p = some a) :
    (h.alloc b).get p = some a := by
  rw [get_alloc_of_ne h b (ne_next_of_get hp), hp]

theorem get_free (p q : Nat) : (h.free p).get q = if q = p then none else h.get q := rfl

@[simp] theorem get_free_self (p : Nat) : (h.free p).get p = none := by
  simp [get_free]

theorem get_free_of_ne {p q : Nat} (hq : q ≠ p) : (h.free p).get q = h.get q := by
  simp [get_free, hq]

theorem get_free_alloc_next (q : Nat) : ((h.alloc a).free h.next).get q = h.get q := by
  rw [get_free, get_alloc]
  split
  next hq => rw [hq, get_next]
  · rfl

theorem get_modify (p q : Nat) (f : α → α) :
    (h.modify p f).get q = if q = p then (h.get q).map f else h.get q := rfl

@[simp] theorem get_modify_self (p : Nat) (f : α → α) : (h.modify p f).get p = (h.get p).map f := by
  simp [get_modify]

theorem get_modify_of_ne {p q : Nat} (f : α → α) (hq : q ≠ p) : (h.modify p f).get q = h.get q := by
  simp [get_modify, hq]

@[simp] theorem get_map (f : α → β) (q : Nat) : (h.map f).get q = (h.get q).map f := rfl

/-! ## Equality -/

theorem ext {h k : Heap α} (hc : ∀ p, h.get p = k.get p) (hb : h.next = k.next)
    (hf : h.frees = k.frees) : h = k := by
  obtain ⟨c, b, f, _⟩ := h
  obtain ⟨c', b', f', _⟩ := k
  have hcell : c = c' := funext hc
  have hbrk : b = b' := hb
  have hfrees : f = f' := hf
  subst hcell hbrk hfrees
  rfl

theorem map_map {γ : Type} (h : Heap α) (f : α → β) (g : β → γ) :
    (h.map f).map g = h.map fun a => g (f a) := by
  refine ext (fun q => ?_) rfl rfl
  rw [get_map, get_map, get_map, Option.map_map]
  rfl

/-- A write that `f` sees as a write goes through the map. -/
theorem map_modify_of_semiconj {g' : β → β} (hfg : ∀ a, f (g a) = g' (f a)) (h : Heap α) (p : Nat) :
    (h.modify p g).map f = (h.map f).modify p g' := by
  refine ext (fun q => ?_) rfl rfl
  rw [get_map, get_modify, get_modify, get_map]
  split
  · rw [Option.map_map, Option.map_map]
    exact congrArg (fun k => Option.map k (h.get q)) (funext hfg)
  · rfl

theorem modify_congr {h : Heap α} {f g : α → α}
    (hfg : ∀ a, h.get p = some a → f a = g a) : h.modify p f = h.modify p g := by
  refine ext (fun q => ?_) rfl rfl
  rw [get_modify, get_modify]
  split
  next hq =>
    subst hq
    cases hget : h.get q with
    | none => rfl
    | some a => simp [hfg a hget]
  · rfl

theorem modify_of_fixed {h : Heap α} {f : α → α} (hf : ∀ a, h.get p = some a → f a = a) : h.modify p f = h:= by
  refine ext (fun q => ?_) rfl rfl
  rw [get_modify]
  split
  next hq =>
    subst hq
    cases hget : h.get q with
    | none => rfl
    | some a => simp [hf a hget]
  · rfl

theorem modify_modify (p : Nat) (f g : α → α) :
    (h.modify p f).modify p g = h.modify p (fun a => g (f a)) := by
  refine ext (fun q => ?_) rfl rfl
  rw [get_modify, get_modify, get_modify]
  split
  · rw [Option.map_map]
    rfl
  · rfl

theorem modify_comm {p q : Nat} (hne : p ≠ q) (f g : α → α) :
    (h.modify p f).modify q g = (h.modify q g).modify p f := by
  refine ext (fun r => ?_) rfl rfl
  simp only [get_modify]
  split
  next hq => rw [if_neg fun hp => hne (hp.symm.trans hq), if_neg fun hp => hne (hp.symm.trans hq)]
  · rfl

theorem modify_alloc_next (f : α → α) : (h.alloc a).modify h.next f = h.alloc (f a) := by
  refine ext (fun q => ?_) rfl rfl
  rw [get_modify, get_alloc, get_alloc]
  split <;> rfl

/-- Modifying behind a map: if `f` does not see `g`, the mapped heap does not either. -/
theorem map_modify_of_comp (hfg : ∀ a, f (g a) = f a)
    (h : Heap α) (p : Nat) : (h.modify p g).map f = h.map f := by
  refine ext (fun q => ?_) rfl rfl
  rw [get_map, get_map, get_modify]
  split
  · rw [Option.map_map]
    exact congrArg (fun k => Option.map k (h.get q)) (funext hfg)
  · rfl

theorem map_modify_of_get {h : Heap α}
    (hfg : ∀ a, h.get p = some a → f (g a) = f a) : (h.modify p g).map f = h.map f := by
  refine ext (fun q => ?_) rfl rfl
  rw [get_map, get_map, get_modify]
  split
  next hq =>
    subst hq
    cases hget : h.get q with
    | none => rfl
    | some a => simp [hfg a hget]
  · rfl

/-! ## Sums over the live nodes -/

/-- The sum of `f` over the live nodes. -/
def sum (h : Heap α) (f : α → Nat) : Nat :=
  ∑ p ∈ Finset.range h.brk, (h.cell p).elim 0 f

theorem sum_alloc (f : α → Nat) : (h.alloc a).sum f = h.sum f + f a := by
  unfold sum alloc
  rw [Finset.sum_range_succ]
  congr 1
  · refine Finset.sum_congr rfl fun p hp => ?_
    have hlt : p < h.brk := Finset.mem_range.mp hp
    show (if p = h.brk then some a else h.cell p).elim 0 f = (h.cell p).elim 0 f
    rw [if_neg (by omega)]
  · simp

variable {h k : Heap α} {a : α}

theorem lt_next_of_get (hp : h.get p = some a) : p < h.next := by
  by_contra hge
  rw [get, h.fresh p (by unfold next at hge; omega)] at hp
  simp at hp

/-- Two heaps that agree away from `p` have sums that differ by what sits at `p`. -/
private theorem sum_congr_away (hb : h.brk = k.brk)
    (hc : ∀ q, q ≠ p → h.cell q = k.cell q) (f : α → Nat) (hp : p < h.brk) :
    h.sum f + (k.cell p).elim 0 f = k.sum f + (h.cell p).elim 0 f := by
  unfold sum
  rw [← hb, ← Finset.sum_erase_add _ _ (Finset.mem_range.mpr hp),
    ← Finset.sum_erase_add _ (fun q => (k.cell q).elim 0 f) (Finset.mem_range.mpr hp)]
  have hsame : ∑ q ∈ (Finset.range h.brk).erase p, (h.cell q).elim 0 f =
      ∑ q ∈ (Finset.range h.brk).erase p, (k.cell q).elim 0 f :=
    Finset.sum_congr rfl fun q hq => by rw [hc q (Finset.ne_of_mem_erase hq)]
  omega

theorem sum_free (hp : h.get p = some a) (f : α → Nat) : (h.free p).sum f + f a = h.sum f := by
  have hlt := lt_next_of_get hp
  have haway := sum_congr_away (h := h.free p) (k := h) (p := p) rfl
    (fun q hq => by simp [free, hq]) f hlt
  have hcell : h.cell p = some a := hp
  simpa [free, hcell] using haway

/-- The sum goes by the nodes at their addresses, however far the break has moved. -/
theorem sum_congr_get (hget : ∀ p, h.get p = k.get p) {f : α → Nat} : h.sum f = k.sum f := by
  have hext : ∀ g : Heap α, ∀ n, g.brk ≤ n →
      g.sum f = ∑ p ∈ Finset.range n, (g.cell p).elim 0 f := by
    intro g n hn
    unfold sum
    refine Finset.sum_subset (Finset.range_mono hn) fun p _ hp => ?_
    rw [g.fresh p (by simpa using hp)]
    rfl
  rw [hext h (max h.brk k.brk) (le_max_left _ _), hext k (max h.brk k.brk) (le_max_right _ _)]
  refine Finset.sum_congr rfl fun p _ => ?_
  have hcell : h.cell p = k.cell p := hget p
  rw [hcell]

theorem sum_modify (hp : h.get p = some a) {g : α → α}
    (f : α → Nat) : (h.modify p g).sum f + f a = h.sum f + f (g a) := by
  have hlt := lt_next_of_get hp
  have haway := sum_congr_away (h := h.modify p g) (k := h) (p := p) rfl
    (fun q hq => by simp [modify, hq]) f hlt
  have hcell : h.cell p = some a := hp
  simpa [modify, hcell] using haway

theorem sum_map (h : Heap α) (g : α → β) (f : β → Nat) :
    (h.map g).sum f = h.sum (fun a => f (g a)) := by
  unfold sum
  refine Finset.sum_congr rfl fun q _ => ?_
  show ((h.get q).map g).elim 0 f = (h.get q).elim 0 fun a => f (g a)
  cases h.get q <;> rfl

theorem sum_congr_map {f : α → β} (hget : ∀ p, (h.get p).map f = (k.get p).map f) (g : β → Nat) :
    (h.sum fun a => g (f a)) = k.sum fun a => g (f a) := by
  rw [← sum_map h f g, ← sum_map k f g]
  refine sum_congr_get fun p => ?_
  rw [get_map, get_map, hget]

theorem sum_eq_zero {f : α → Nat} : h.sum f = 0 ↔ ∀ p a, h.get p = some a → f a = 0 := by
  unfold sum
  rw [Finset.sum_eq_zero_iff]
  constructor
  · intro hz p a hp
    have hp' : h.cell p = some a := hp
    simpa [hp'] using hz p (Finset.mem_range.mpr (lt_next_of_get hp))
  · intro hz p _
    cases hp : h.cell p with
    | none => rfl
    | some a => exact hz p a hp

theorem le_sum (hp : h.get p = some a) (f : α → Nat) : f a ≤ h.sum f := by
  have hcell : h.cell p = some a := hp
  have hlt : p < h.brk := lt_next_of_get hp
  calc f a = (h.cell p).elim 0 f := by rw [hcell]; rfl
    _ ≤ h.sum f := Finset.single_le_sum (f := fun q => (h.cell q).elim 0 f)
        (fun q _ => Nat.zero_le _) (Finset.mem_range.mpr hlt)

theorem sum_eq_ncard (h : Heap α) (P : α → Prop) [DecidablePred P] :
    h.sum (fun a => if P a then 1 else 0) = Set.ncard {p | ∃ a, h.get p = some a ∧ P a} := by
  have hset : {p | ∃ a, h.get p = some a ∧ P a} =
      ((Finset.range h.brk).filter fun p => (h.cell p).elim 0 (fun a => if P a then 1 else 0) = 1 :
        Set Nat) := by
    ext p
    simp only [Set.mem_ofPred_eq, Finset.coe_filter, Finset.mem_range]
    constructor
    · rintro ⟨a, ha, hP⟩
      have hcell : h.cell p = some a := ha
      exact ⟨lt_next_of_get ha, by simp [hcell, hP]⟩
    · rintro ⟨-, hone⟩
      cases hcell : h.cell p with
      | none => simp [hcell] at hone
      | some a =>
        refine ⟨a, hcell, ?_⟩
        by_contra hP
        simp [hcell, hP] at hone
  rw [hset, Set.ncard_coe_finset, Finset.card_filter]
  unfold sum
  refine Finset.sum_congr rfl fun p _ => ?_
  cases h.cell p with
  | none => rfl
  | some a =>
    by_cases hP : P a
    · simp [hP]
    · simp [hP]

end Heap

end OpxSai
