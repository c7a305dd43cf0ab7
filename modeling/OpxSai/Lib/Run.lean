/-!
# Runs of a system

A system is a step function on states, taking a label. A run is a sequence of
steps, each of which meets a condition on the label and on the state it is taken
in: the condition says which labels are looked at, and what is assumed of them.

* `Run.induct` — what holds at the start and is kept by every step holds at the end;
* `Run.mono`, `Run.trans` — how runs compose;
* `Undoes.foldl` — several steps are taken back one by one, the first one first;
* `Swaps.foldlM` — steps that may fail lead to the same state in every order.
-/

namespace OpxSai

/-- A run from one state to another, its last step at the end. -/
inductive Run {S L : Type} (step : L → S → S) (ok : L → S → Prop) : S → S → Prop where
  | nil (s : S) : Run step ok s s
  | snoc {s t : S} (l : L) : Run step ok s t → ok l t → Run step ok s (step l t)

namespace Run

variable {S L : Type} {step : L → S → S} {ok ok' : L → S → Prop}

theorem induct {P : S → Prop} (hstep : ∀ l s, P s → ok l s → P (step l s)) {s t : S}
    (hrun : Run step ok s t) (hs : P s) : P t := by
  induction hrun with
  | nil => exact hs
  | snoc l _ hok ih => exact hstep l _ ih hok

theorem one (l : L) {s : S} (h : ok l s) : Run step ok s (step l s) :=
  .snoc l (.nil s) h

theorem mono (himp : ∀ l s, ok l s → ok' l s) {s t : S} (hrun : Run step ok s t) :
    Run step ok' s t := by
  induction hrun with
  | nil => exact .nil s
  | snoc l _ hok ih => exact .snoc l ih (himp l _ hok)

end Run

/-! ## Taking steps back -/

section Undo

variable {α S : Type} [DecidableEq α] {add drop : α → S → S} {A : α → Prop} {P : S → Prop}
variable {xs ys : List α} {s : S}

/-- A step is taken back, also when a step for something else has come behind it. -/
structure Undoes (add drop : α → S → S) (A : α → Prop) (P : S → Prop) : Prop where
  keep : ∀ x s, A x → P s → P (add x s)
  cancel : ∀ x s, P s → drop x (add x s) = s
  comm : ∀ x y z s, A z → P s → x ≠ y → drop x (add y (add z s)) = add y (drop x (add z s))

namespace Undoes

variable (h : Undoes add drop A P) (hs : P s)

include h hs

omit [DecidableEq α] in
theorem keep_foldr (hxs : ∀ x ∈ xs, A x) : P (xs.foldr add s) := by
  induction xs with
  | nil => exact hs
  | cons x xs ih =>
    exact h.keep x _ (hxs x List.mem_cons_self) (ih fun y hy => hxs y (List.mem_cons_of_mem _ hy))

theorem drop_foldr (hxs : ∀ x ∈ xs, A x) {x : α} (hmem : x ∈ xs) :
    drop x (xs.foldr add s) = (xs.erase x).foldr add s := by
  induction xs with
  | nil => simp at hmem
  | cons y xs ih =>
    have hrest := fun z hz => hxs z (List.mem_cons_of_mem y hz)
    by_cases hy : y = x
    · subst hy
      rw [List.foldr_cons, h.cancel y _ (h.keep_foldr hs hrest), List.erase_cons_head]
    have hmem : x ∈ xs := (List.mem_cons.mp hmem).resolve_left (Ne.symm hy)
    have ih := ih hrest hmem
    rw [List.foldr_cons, List.erase_cons_tail (by simpa using hy), List.foldr_cons, ← ih]
    -- a step comes before that for `y`
    obtain ⟨z, zs, rfl⟩ := List.exists_cons_of_ne_nil (List.ne_nil_of_mem hmem)
    exact h.comm x y z _ (hrest z List.mem_cons_self)
      (h.keep_foldr hs fun w hw => hrest w (List.mem_cons_of_mem _ hw)) (Ne.symm hy)

theorem foldl_perm (hperm : xs.Perm ys) (hys : ∀ y ∈ ys, A y) :
    xs.foldl (fun s x => drop x s) (ys.foldr add s) = s := by
  induction xs generalizing ys with
  | nil => rw [List.nil_perm.mp hperm, List.foldr_nil, List.foldl_nil]
  | cons x xs ih =>
    obtain ⟨hmem, hperm⟩ := List.cons_perm_iff_perm_erase.mp hperm
    rw [List.foldl_cons, h.drop_foldr hs hys hmem]
    exact ih hperm fun y hy => hys y (List.mem_of_mem_erase hy)

theorem foldl (hxs : ∀ x ∈ xs, A x) :
    xs.foldl (fun s x => drop x s) (xs.foldl (fun s x => add x s) s) = s := by
  rw [List.foldl_eq_foldr_reverse (f := fun s x => add x s)]
  exact h.foldl_perm hs (List.reverse_perm xs).symm fun y hy => hxs y (List.mem_reverse.mp hy)

end Undoes

end Undo

/-! ## Taking steps in another order -/

section Order

variable {α β S : Type} {f : S → α → Option S} {ok : List α → S → Prop} {xs ys : List α} {s : S}

/-- Two steps that come next to each other may change places, where the steps to come may be taken. -/
structure Swaps (f : S → α → Option S) (ok : List α → S → Prop) : Prop where
  next : ∀ {x xs s t}, ok (x :: xs) s → f s x = some t → ok xs t
  perm : ∀ {xs ys s}, ok xs s → xs.Perm ys → ok ys s
  swap : ∀ {x y xs s}, ok (x :: y :: xs) s → (f s x).bind (f · y) = (f s y).bind (f · x)

/-- Steps that have different names. -/
theorem Swaps.of_name {name : α → β}
    (hswap : ∀ x y s, name x ≠ name y → (f s x).bind (f · y) = (f s y).bind (f · x)) :
    Swaps f fun xs _ => (xs.map name).Nodup where
  next := fun h _ => (List.nodup_cons.mp h).2
  perm := fun h hperm => (hperm.map name).nodup_iff.mp h
  swap := fun {x y _ s} h => hswap x y s fun heq => (List.nodup_cons.mp h).1 (heq ▸ List.mem_cons_self)

theorem Swaps.foldlM (h : Swaps f ok) (hperm : xs.Perm ys) (hs : ok xs s) :
    xs.foldlM f s = ys.foldlM f s := by
  induction hperm generalizing s with
  | nil => rfl
  | cons x _ ih =>
    rw [List.foldlM_cons, List.foldlM_cons]
    -- behind a step that fails nothing is done in either order
    cases hx : f s x with
    | none => rfl
    | some t => exact ih (h.next hs hx)
  | swap x y xs =>
    simp only [List.foldlM_cons, ← bind_assoc]
    exact congrArg (· >>= fun t => xs.foldlM f t) (h.swap hs)
  | trans hxs _ ih₁ ih₂ => exact (ih₁ hs).trans (ih₂ (h.perm hs hxs))

end Order

end OpxSai
