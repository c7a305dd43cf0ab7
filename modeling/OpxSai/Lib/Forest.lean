import Mathlib.Data.Set.Card
import Mathlib.Logic.Relation

/-!
# Forests of keyed nodes

Nodes are found by their keys. A node has a label, the key of its parent, and the list of the keys of its
children. A relation on labels says what may stand above what.

* `IsForest` — parents are there and may stand above, and the lists are exact;
* `IsForest.insertNode`, `IsForest.link`, `IsForest.unlink`, `IsForest.dropNode` — the operations keep it;
* `IsForest.path` — the way up from a node ends, without repetition;
* `IsForest.card` — a list has as many keys as the node has children.
-/

namespace OpxSai

structure ForestNode (K L : Type) where
  label : L
  parent : Option K
  childs : List K

/-- Parents are there and may stand above their children, and each list has the children of its node. -/
structure IsForest {K L : Type} (above : L → L → Prop) (nodes : K → Option (ForestNode K L)) : Prop where
  parent : ∀ c n p, nodes c = some n → n.parent = some p →
    ∃ m, nodes p = some m ∧ above m.label n.label
  nodup : ∀ p m, nodes p = some m → m.childs.Nodup
  childs : ∀ p m c, nodes p = some m →
    (c ∈ m.childs ↔ ∃ n, nodes c = some n ∧ n.parent = some p)

/-- The way up from a node to one without a parent. -/
inductive PathUp {K L : Type} (nodes : K → Option (ForestNode K L)) : K → List K → Prop where
  | root {c : K} {n : ForestNode K L} : nodes c = some n → n.parent = none → PathUp nodes c [c]
  | step {c p : K} {n : ForestNode K L} {path : List K} : nodes c = some n → n.parent = some p →
      PathUp nodes p path → PathUp nodes c (c :: path)

section Forest

variable {K L : Type} {above : L → L → Prop} {nodes : K → Option (ForestNode K L)}

/-! ## Paths and counts -/

theorem PathUp.last {c} {path} (h : PathUp nodes c path) :
    ∃ r n, path.getLast? = some r ∧ nodes r = some n ∧ n.parent = none := by
  induction h with
  | root hnode hroot => exact ⟨_, _, rfl, hnode, hroot⟩
  | step hnode hparent hpath ih =>
    obtain ⟨r, n, hlast, hr, hroot⟩ := ih
    refine ⟨r, n, ?_, hr, hroot⟩
    rw [List.getLast?_cons, hlast]
    rfl

theorem IsForest.path_above (hforest : IsForest above nodes) {c} {path}
    (hpath : PathUp nodes c path) {n} (hn : nodes c = some n) :
    ∀ a ∈ path, ∃ m, nodes a = some m ∧ (a = c ∨ Relation.TransGen above m.label n.label) := by
  induction hpath generalizing n with
  | root hnode hroot =>
    intro a ha
    rw [List.mem_singleton.mp ha]
    exact ⟨n, hn, .inl rfl⟩
  | step hnode hparent hpath ih =>
    intro a ha
    rcases List.mem_cons.mp ha with heq | ha
    · rw [heq]
      exact ⟨n, hn, .inl rfl⟩
    rw [hnode] at hn
    cases hn
    obtain ⟨m, hm, habove⟩ := hforest.parent _ _ _ hnode hparent
    obtain ⟨m', hm', hcase⟩ := ih hm a ha
    refine ⟨m', hm', .inr ?_⟩
    rcases hcase with heq | htrans
    · rw [heq, hm] at hm'
      cases hm'
      exact .single habove
    · exact .tail htrans habove

theorem IsForest.path (hforest : IsForest above nodes) (hwf : WellFounded above) {c}
    {n} (hn : nodes c = some n) :
    ∃ path, PathUp nodes c path ∧ path.Nodup := by
  generalize hlabel : n.label = l
  induction l using hwf.induction generalizing c n with
  | _ l ih =>
    cases hparent : n.parent with
    | none => exact ⟨[c], .root hn hparent, List.nodup_singleton c⟩
    | some p =>
      obtain ⟨m, hm, habove⟩ := hforest.parent c n p hn hparent
      obtain ⟨path, hpath, hnodup⟩ := ih m.label (hlabel ▸ habove) hm rfl
      refine ⟨c :: path, .step hn hparent hpath, List.nodup_cons.mpr ⟨fun hin => ?_, hnodup⟩⟩
      -- a node on the way up from the parent stands above the node
      obtain ⟨m', hm', hcase⟩ := hforest.path_above hpath hm c hin
      rw [hn] at hm'
      cases hm'
      have hcycle : Relation.TransGen above n.label n.label := by
        rcases hcase with heq | htrans
        · rw [heq, hm] at hn
          cases hn
          exact .single habove
        · exact .tail htrans habove
      exact (WellFounded.transGen hwf).irrefl.irrefl _ hcycle

theorem IsForest.card (hforest : IsForest above nodes) {p} {m}
    (hm : nodes p = some m) :
    m.childs.length = Set.ncard {c | ∃ n, nodes c = some n ∧ n.parent = some p} := by
  classical
  have hset : {c | ∃ n, nodes c = some n ∧ n.parent = some p} = (m.childs.toFinset : Set K) := by
    ext c
    rw [Set.mem_setOf_eq, ← hforest.childs p m c hm]
    simp
  rw [hset, Set.ncard_coe_finset, List.toFinset_card_of_nodup (hforest.nodup p m hm)]

/-! ## Operations -/

variable [DecidableEq K]

def insertNode (c : K) (l : L) (nodes : K → Option (ForestNode K L)) : K → Option (ForestNode K L) :=
  fun o => if o = c then some ⟨l, none, []⟩ else nodes o

def linkNode (p c : K) (nodes : K → Option (ForestNode K L)) : K → Option (ForestNode K L) := fun o =>
  if o = c then (nodes c).map fun n => { n with parent := some p }
  else if o = p then (nodes p).map fun m => { m with childs := m.childs ++ [c] }
  else nodes o

def unlinkNode (p c : K) (nodes : K → Option (ForestNode K L)) : K → Option (ForestNode K L) := fun o =>
  if o = c then (nodes c).map fun n => { n with parent := none }
  else if o = p then (nodes p).map fun m => { m with childs := m.childs.erase c }
  else nodes o

def dropNode (c : K) (nodes : K → Option (ForestNode K L)) : K → Option (ForestNode K L) := fun o =>
  if o = c then none else nodes o

namespace IsForest

theorem insertNode (h : IsForest above nodes) {c} (hc : nodes c = none) (l : L) :
    IsForest above (insertNode c l nodes) := by
  refine ⟨?_, ?_, ?_⟩
  · intro o n p hn hparent
    unfold OpxSai.insertNode at hn ⊢
    split at hn
    · cases hn
      cases hparent
    obtain ⟨m, hm, habove⟩ := h.parent o n p hn hparent
    refine ⟨m, ?_, habove⟩
    rw [if_neg, hm]
    intro heq
    rw [heq, hc] at hm
    cases hm
  · intro p m hm
    unfold OpxSai.insertNode at hm
    split at hm
    · cases hm
      exact List.nodup_nil
    · exact h.nodup p m hm
  · intro p m o hm
    unfold OpxSai.insertNode at hm ⊢
    split at hm
    next hp =>
      cases hm
      refine ⟨fun hin => absurd hin List.not_mem_nil, ?_⟩
      rintro ⟨n, hn, hparent⟩
      split at hn
      · cases hn
        cases hparent
      obtain ⟨m, hm, -⟩ := h.parent o n p hn hparent
      rw [hp, hc] at hm
      cases hm
    · rw [h.childs p m o hm]
      by_cases ho : o = c
      · simp [ho, hc]
      · simp [ho]

/-- A node `c` takes `x` as its parent, and `l` is the list of `p`: of the lists, that of `p` alone has `c`. -/
theorem move (h : IsForest above nodes) {nodes' : K → Option (ForestNode K L)} {p c}
    {n m} {x} {l} (hn : nodes c = some n) (hm : nodes p = some m)
    (hpc : p ≠ c) (hnodes : ∀ o, nodes' o =
      if o = c then some { n with parent := x }
      else if o = p then some { m with childs := l } else nodes o)
    (hx : ∀ q, x = some q → q = p ∧ above m.label n.label) (hnodup : l.Nodup)
    (hl : ∀ o, o ∈ l ↔ if o = c then x = some p else o ∈ m.childs)
    (hmem : ∀ q k, q ≠ p → nodes q = some k → c ∉ k.childs) : IsForest above nodes' := by
  have hnew : nodes' c = some { n with parent := x } := (hnodes c).trans (if_pos rfl)
  have hold : nodes' p = some { m with childs := l } := by
    rw [hnodes, if_neg hpc, if_pos rfl]
  have hother : ∀ o, o ≠ c → o ≠ p → nodes' o = nodes o := by
    intro o hoc hop
    rw [hnodes, if_neg hoc, if_neg hop]
  -- the labels and the parents of the others stay
  have hlabel : ∀ o k, nodes o = some k → ∃ k', nodes' o = some k' ∧ k'.label = k.label := by
    intro o k hk
    by_cases hoc : o = c
    · rw [hoc, hn] at hk
      cases hk
      rw [hoc]
      exact ⟨_, hnew, rfl⟩
    by_cases hop : o = p
    · rw [hop, hm] at hk
      cases hk
      rw [hop]
      exact ⟨_, hold, rfl⟩
    · exact ⟨k, (hother o hoc hop).trans hk, rfl⟩
  have hparents : ∀ o q, o ≠ c → ((∃ k, nodes' o = some k ∧ k.parent = some q) ↔
      ∃ k, nodes o = some k ∧ k.parent = some q) := by
    intro o q hoc
    by_cases hop : o = p
    · rw [hop, hold, hm]
      simp
    · rw [hother o hoc hop]
  have hright : ∀ q, (∃ n', nodes' c = some n' ∧ n'.parent = some q) ↔ x = some q := by
    intro q
    rw [hnew]
    simp
  refine ⟨?_, ?_, ?_⟩
  · intro o k q hk hq
    by_cases hoc : o = c
    · rw [hoc, hnew] at hk
      cases hk
      obtain ⟨hqp, habove⟩ := hx q hq
      rw [hqp]
      exact ⟨_, hold, habove⟩
    obtain ⟨k', hk', hq'⟩ := (hparents o q hoc).mp ⟨k, hk, hq⟩
    obtain ⟨m', hm', habove'⟩ := h.parent o k' q hk' hq'
    obtain ⟨m'', hm'', hl⟩ := hlabel q m' hm'
    obtain ⟨k'', hk'', hl'⟩ := hlabel o k' hk'
    rw [hk] at hk''
    cases hk''
    exact ⟨m'', hm'', by rw [hl, hl']; exact habove'⟩
  · intro q k hk
    by_cases hqc : q = c
    · rw [hqc, hnew] at hk
      cases hk
      exact h.nodup c n hn
    by_cases hqp : q = p
    · rw [hqp, hold] at hk
      cases hk
      exact hnodup
    · exact h.nodup q k (by rw [← hother q hqc hqp]; exact hk)
  · intro q k o hk
    by_cases hqp : q = p
    · rw [hqp, hold] at hk
      cases hk
      rw [hl, hqp]
      by_cases hoc : o = c
      · rw [if_pos hoc, hoc, hright]
      · rw [if_neg hoc, hparents o p hoc, h.childs p m o hm]
    have hk' : ∃ k', nodes q = some k' ∧ k'.childs = k.childs := by
      by_cases hqc : q = c
      · rw [hqc, hnew] at hk
        cases hk
        exact ⟨n, hqc ▸ hn, rfl⟩
      · exact ⟨k, (hother q hqc hqp).symm.trans hk, rfl⟩
    obtain ⟨k', hk', heq⟩ := hk'
    rw [← heq]
    by_cases hoc : o = c
    · rw [hoc, hright]
      exact iff_of_false (hmem q k' hqp hk') fun hxq => hqp (hx q hxq).1
    · rw [hparents o q hoc]
      exact h.childs q k' o hk'

/-- **A node without a parent goes under one that may stand above it.** -/
theorem link (h : IsForest above nodes) (hirr : ∀ l, ¬ above l l) {p c} {n m}
    (hn : nodes c = some n) (hroot : n.parent = none) (hm : nodes p = some m)
    (habove : above m.label n.label) : IsForest above (linkNode p c nodes) := by
  have hpc : p ≠ c := by
    intro heq
    rw [heq, hn] at hm
    cases hm
    exact hirr _ habove
  have hmem : ∀ q k, nodes q = some k → c ∉ k.childs := by
    intro q k hk hin
    obtain ⟨n', hn', hp'⟩ := (h.childs q k c hk).mp hin
    rw [hn] at hn'
    cases hn'
    rw [hroot] at hp'
    cases hp'
  refine h.move (x := some p) (l := m.childs ++ [c]) hn hm hpc
    (fun o => by simp only [linkNode, hn, hm, Option.map_some])
    (fun q hq => ⟨(Option.some.inj hq).symm, habove⟩) ?_ (fun o => ?_) fun q k _ => hmem q k
  · refine List.nodup_append.mpr ⟨h.nodup p m hm, List.nodup_singleton c, ?_⟩
    intro a ha b hb heq
    rw [List.mem_singleton.mp hb] at heq
    exact hmem p m hm (heq ▸ ha)
  · by_cases hoc : o = c
    · simp [hoc]
    · simp [hoc]

theorem unlink (h : IsForest above nodes) (hirr : ∀ l, ¬ above l l) {p c} {n}
    (hn : nodes c = some n) (hparent : n.parent = some p) : IsForest above (unlinkNode p c nodes) := by
  obtain ⟨m, hm, habove⟩ := h.parent c n p hn hparent
  have hpc : p ≠ c := by
    intro heq
    rw [heq, hn] at hm
    cases hm
    exact hirr _ habove
  refine h.move (x := none) (l := m.childs.erase c) hn hm hpc
    (fun o => by simp only [unlinkNode, hn, hm, Option.map_some])
    (fun q hq => nomatch hq) ((h.nodup p m hm).erase c) (fun o => ?_) ?_
  · rw [(h.nodup p m hm).mem_erase_iff]
    by_cases hoc : o = c
    · simp [hoc]
    · simp [hoc]
  · -- the node is on the list of its parent alone
    intro q k hqp hk hin
    obtain ⟨n', hn', hp'⟩ := (h.childs q k c hk).mp hin
    rw [hn] at hn'
    cases hn'
    rw [hparent] at hp'
    cases hp'
    exact hqp rfl

theorem dropNode (h : IsForest above nodes) {c} {n} (hn : nodes c = some n)
    (hroot : n.parent = none) (hchilds : n.childs = []) : IsForest above (dropNode c nodes) := by
  -- no node has it as its parent
  have hnone : ∀ o k, nodes o = some k → k.parent ≠ some c := by
    intro o k hk hparent
    have hin := (h.childs c n o hn).mpr ⟨k, hk, hparent⟩
    rw [hchilds] at hin
    cases hin
  refine ⟨?_, ?_, ?_⟩
  · intro o k q hk hq
    unfold OpxSai.dropNode at hk ⊢
    split at hk
    · cases hk
    obtain ⟨m, hm, habove⟩ := h.parent o k q hk hq
    refine ⟨m, ?_, habove⟩
    rw [if_neg, hm]
    intro heq
    exact hnone o k hk (heq ▸ hq)
  · intro q k hk
    unfold OpxSai.dropNode at hk
    split at hk
    · cases hk
    · exact h.nodup q k hk
  · intro q k o hk
    unfold OpxSai.dropNode at hk ⊢
    split at hk
    · cases hk
    rw [h.childs q k o hk]
    by_cases hoc : o = c
    · subst hoc
      rw [if_pos rfl, hn]
      simp [hroot]
    · rw [if_neg hoc]

end IsForest

end Forest

end OpxSai
