import Mathlib.Data.Set.Insert
import Mathlib.Logic.Function.Basic

/-!
# Locks that are taken in an order

Calls take locks and give them back, and each call is the list of these steps. Any number of threads run
calls, one step of one thread at a time, and a thread waits for a lock that another has.

Threads are deadlocked when each of a set of them has a lock that another of the set waits for. A
numbering of the locks that rises from each lock that a thread has to the lock that it waits for rules
this out.

* `LockSystem`, `lockMove` — the threads, and one step of one of them;
* `lockPairs` — which locks a call takes under which;
* `LockInv` — a thread has the locks that its call took;
* `LockInv.takesUnder` — how a thread comes to have one lock and to wait for another;
* `not_deadlocked` — the rule.
-/

namespace OpxSai

/-! ## Programs -/

inductive LockStep (L : Type) where
  | lock (l : L)
  | unlock (l : L)
deriving DecidableEq

section Programs

variable {L : Type} [DecidableEq L]

def LockStep.held (held : List L) : LockStep L → List L
  | .lock l => l :: held
  | .unlock l => held.erase l

def heldAfter (held : List L) (steps : List (LockStep L)) : List L := steps.foldl LockStep.held held

/-- The locks under which a step takes another. -/
def LockStep.pairs (held : List L) : LockStep L → List (L × L)
  | .lock l => held.map fun l' => (l', l)
  | .unlock _ => []

def lockPairs (held : List L) : List (LockStep L) → List (L × L)
  | [] => []
  | step :: steps => step.pairs held ++ lockPairs (step.held held) steps

theorem mem_lockPairs {l l'} (steps : List (LockStep L)) :
    ∀ (held : List L) (pos : Nat), steps[pos]? = some (.lock l) →
      l' ∈ heldAfter held (steps.take pos) → (l', l) ∈ lockPairs held steps := by
  induction steps with
  | nil => exact fun _ _ h => nomatch h
  | cons step steps ih =>
    intro held pos hnext hheld
    rw [lockPairs, List.mem_append]
    cases pos with
    | zero =>
      cases hnext
      exact .inl (List.mem_map_of_mem hheld)
    | succ pos => exact .inr (ih (step.held held) pos hnext hheld)

theorem heldAfter_succ {steps : List (LockStep L)} {pos : Nat} {step : LockStep L}
    (hnext : steps[pos]? = some step) {held : List L} :
    heldAfter held (steps.take (pos + 1)) = step.held (heldAfter held (steps.take pos)) := by
  rw [List.take_add_one, hnext, heldAfter, List.foldl_append]
  rfl

end Programs

/-! ## Threads -/

structure LockThread (C : Type) where
  call : C
  pos : Nat

/-- The calls that the threads are in, and who has a lock. -/
structure LockSystem (C L : Type) where
  threads : Nat → Option (LockThread C)
  holder : L → Option Nat

def LockSystem.initial {C L : Type} : LockSystem C L := ⟨fun _ => none, fun _ => none⟩

inductive LockMove (C : Type) where
  | start (t : Nat) (call : C)
  | step (t : Nat)

section System

variable {C L : Type} [DecidableEq L] (program : C → List (LockStep L))

def LockThread.next (thread : LockThread C) : Option (LockStep L) := (program thread.call)[thread.pos]?

/-- The locks that a thread took and did not give back. -/
def LockThread.held (thread : LockThread C) : List L :=
  heldAfter [] ((program thread.call).take thread.pos)

def LockThread.after (thread : LockThread C) : LockThread C := { thread with pos := thread.pos + 1 }

def LockStep.take (t : Nat) (holder : L → Option Nat) : LockStep L → Option (L → Option Nat)
  | .lock l => if holder l = none then some (Function.update holder l (some t)) else none
  | .unlock l => some (Function.update holder l none)

/-- What a thread leaves: at the end of its call it goes back, and it waits where it must. -/
def lockThreadStep (t : Nat) (thread : LockThread C) (s : LockSystem C L) : LockSystem C L :=
  match thread.next program with
  | none => { s with threads := Function.update s.threads t none }
  | some step =>
    match step.take t s.holder with
    | none => s
    | some holder => ⟨Function.update s.threads t (some thread.after), holder⟩

def lockMove : LockMove C → LockSystem C L → LockSystem C L
  | .start t call, s =>
    match s.threads t with
    | none => { s with threads := Function.update s.threads t (some ⟨call, 0⟩) }
    | some _ => s
  | .step t, s =>
    match s.threads t with
    | none => s
    | some thread => lockThreadStep program t thread s

namespace LockSystem

variable (s : LockSystem C L)

/-- A thread is about to take a lock. -/
def Waits (t : Nat) (l : L) : Prop :=
  ∃ thread, s.threads t = some thread ∧ thread.next program = some (.lock l)

/-- **Deadlock**: each of a set of threads has a lock that another of them waits for. -/
def Deadlocked : Prop :=
  ∃ S : Set Nat, S.Nonempty ∧ ∀ t ∈ S, ∃ u ∈ S, u ≠ t ∧ ∃ l, s.holder l = some t ∧ s.Waits program u l

end LockSystem

/-! ## The rule -/

/-- **No deadlock**: a numbering rises from what a thread has to what it waits for. -/
theorem not_deadlocked {s : LockSystem C L} (rank : L → Nat)
    (hrank : ∀ t l l', s.holder l = some t → s.Waits program t l' → rank l < rank l') :
    ¬ s.Deadlocked program := by
  rintro ⟨S, ⟨t, ht⟩, hall⟩
  -- Who waits for a lock has one with a smaller number, for which another waits.
  have hdown : ∀ n u l, u ∈ S → s.Waits program u l → rank l = n → False := by
    intro n
    induction n using Nat.strongRecOn with
    | ind n ih =>
      intro u l hu hwaits hn
      obtain ⟨v, hv, -, l', hhas, hwaits'⟩ := hall u hu
      exact ih (rank l') (hn ▸ hrank u l' l hhas hwaits) v l' hv hwaits' rfl
  obtain ⟨u, hu, -, l, -, hwaits⟩ := hall t ht
  exact hdown (rank l) u l hu hwaits rfl

/-! ## What a step leaves -/

theorem LockStep.take_holder {t u : Nat} {holder holder' : L → Option Nat} {step : LockStep L} {l : L}
    (h : step.take t holder = some holder') (hu : holder' l = some u) :
    (step = .lock l ∧ holder l = none ∧ u = t) ∨ (step ≠ .unlock l ∧ holder l = some u) := by
  cases step with
  | lock l' =>
    simp only [LockStep.take] at h
    split at h
    next hfree =>
      cases h
      by_cases heq : l = l'
      · rw [heq, Function.update_self] at hu
        exact .inl ⟨by rw [heq], heq ▸ hfree, (Option.some.inj hu).symm⟩
      · rw [Function.update_of_ne heq] at hu
        exact .inr ⟨nofun, hu⟩
    · cases h
  | unlock l' =>
    cases h
    by_cases heq : l = l'
    · rw [heq, Function.update_self] at hu
      cases hu
    · rw [Function.update_of_ne heq] at hu
      exact .inr ⟨fun h => heq (LockStep.unlock.inj h).symm, hu⟩

/-- The ways of a move: nothing, a call begins, a thread goes back, or a step is done. -/
theorem lockMove_cases (move : LockMove C) (s : LockSystem C L) :
    lockMove program move s = s ∨
    (∃ t call, move = .start t call ∧ s.threads t = none ∧
      lockMove program move s = { s with threads := Function.update s.threads t (some ⟨call, 0⟩) }) ∨
    (∃ t thread, move = .step t ∧ s.threads t = some thread ∧ thread.next program = none ∧
      lockMove program move s = { s with threads := Function.update s.threads t none }) ∨
    ∃ t thread step holder, move = .step t ∧ s.threads t = some thread ∧
      thread.next program = some step ∧ step.take t s.holder = some holder ∧
      lockMove program move s = ⟨Function.update s.threads t (some thread.after), holder⟩ := by
  cases move with
  | start t call =>
    cases ht : s.threads t with
    | none => exact .inr (.inl ⟨t, call, rfl, ht, by simp only [lockMove, ht]⟩)
    | some thread => exact .inl (by simp only [lockMove, ht])
  | step t =>
    cases ht : s.threads t with
    | none => exact .inl (by simp only [lockMove, ht])
    | some thread =>
      cases hnext : thread.next program with
      | none =>
        refine .inr (.inr (.inl ⟨t, thread, rfl, ht, hnext, ?_⟩))
        simp only [lockMove, ht, lockThreadStep, hnext]
      | some step =>
        cases htake : step.take t s.holder with
        | none => exact .inl (by simp only [lockMove, ht, lockThreadStep, hnext, htake])
        | some holder =>
          refine .inr (.inr (.inr ⟨t, thread, step, holder, rfl, ht, hnext, htake, ?_⟩))
          simp only [lockMove, ht, lockThreadStep, hnext, htake]

/-! ## The invariant -/

def LockInv (s : LockSystem C L) : Prop :=
  ∀ l t, s.holder l = some t → ∃ thread, s.threads t = some thread ∧ l ∈ thread.held program

theorem LockInv.initial : LockInv program .initial := fun _ _ h => nomatch h

variable {program} {s : LockSystem C L}

theorem LockInv.held (h : LockInv program s) {t : Nat} {l} {thread}
    (hthread : s.threads t = some thread) (hhas : s.holder l = some t) : l ∈ thread.held program := by
  obtain ⟨thread', hthread', hheld⟩ := h l t hhas
  obtain rfl := Option.some.inj (hthread.symm.trans hthread')
  exact hheld

theorem LockInv.pair (h : LockInv program s) {t : Nat} {l l'} (hhas : s.holder l = some t)
    (hwaits : s.Waits program t l') :
    ∃ thread, s.threads t = some thread ∧ (l, l') ∈ lockPairs [] (program thread.call) := by
  obtain ⟨thread, hthread, hnext⟩ := hwaits
  exact ⟨thread, hthread, mem_lockPairs _ _ _ hnext (h.held hthread hhas)⟩

/-- **Each step** keeps the invariant, where a call gives all its locks back. -/
theorem LockInv.move (hback : ∀ call, heldAfter [] (program call) = []) (move : LockMove C)
    (h : LockInv program s) : LockInv program (lockMove program move s) := by
  rcases lockMove_cases _ _ s with hsame | ⟨t, call, -, hidle, hs'⟩ | ⟨t, thread, -, ht, hend, hs'⟩ |
    ⟨t, thread, step, holder, -, ht, hnext, htake, hs'⟩
  · rw [hsame]
    exact h
  · rw [hs']
    intro l u hu
    obtain ⟨thread, hthread, hheld⟩ := h l u hu
    have hne : u ≠ t := by
      rintro rfl
      rw [hidle] at hthread
      cases hthread
    exact ⟨thread, (Function.update_of_ne hne ..).trans hthread, hheld⟩
  · -- A thread that goes back has no lock.
    rw [hs']
    intro l u hu
    obtain ⟨thread', hthread, hheld⟩ := h l u hu
    have hne : u ≠ t := by
      rintro rfl
      have hheld := h.held ht hu
      rw [LockThread.held, List.take_of_length_le (List.getElem?_eq_none_iff.mp hend), hback] at hheld
      cases hheld
    exact ⟨thread', (Function.update_of_ne hne ..).trans hthread, hheld⟩
  · rw [hs']
    intro l u hu
    have hafter : thread.after.held program = step.held (thread.held program) := heldAfter_succ hnext
    have hself : Function.update s.threads t (some thread.after) t = some thread.after :=
      Function.update_self ..
    rcases LockStep.take_holder htake hu with ⟨rfl, -, rfl⟩ | ⟨hkeep, hold⟩
    · refine ⟨thread.after, hself, ?_⟩
      rw [hafter]
      exact List.mem_cons_self
    by_cases heq : u = t
    · subst heq
      refine ⟨thread.after, hself, ?_⟩
      rw [hafter]
      have hheld := h.held ht hold
      cases step with
      | lock l' => exact List.mem_cons_of_mem _ hheld
      | unlock l' => exact (List.mem_erase_of_ne fun heq => hkeep (by rw [heq])).mpr hheld
    · obtain ⟨thread', hthread, hheld⟩ := h l u hold
      exact ⟨thread', (Function.update_of_ne heq ..).trans hthread, hheld⟩

/-! ## One lock under another -/

def LockSystem.TakesUnder (program : C → List (LockStep L)) (s : LockSystem C L) (l l' : L) (t : Nat) :
    Prop :=
  s.holder l = some t ∧ s.Waits program t l'

/-- **How a thread comes between two locks** that a call takes at once: it was there, or it has just taken
the first. -/
theorem LockInv.takesUnder (hback : ∀ call, heldAfter [] (program call) = []) (h : LockInv program s)
    {l l' : L}
    (hfirst : ∀ call pos, (program call)[pos]? = some (.lock l') →
      l ∈ heldAfter [] ((program call).take pos) → pos = 1)
    {move : LockMove C} {u : Nat} (hunder : (lockMove program move s).TakesUnder program l l' u) :
    s.TakesUnder program l l' u ∨
    ∃ thread, move = .step u ∧ s.threads u = some thread ∧ thread.pos = 0 ∧ s.holder l = none ∧
      (l, l') ∈ lockPairs [] (program thread.call) := by
  obtain ⟨hhas, thread', hthread, hnext'⟩ := hunder
  have hinv := h.move hback move
  have hheld := hinv.held hthread hhas
  have hpos := hfirst thread'.call thread'.pos hnext' hheld
  have hpair := mem_lockPairs _ _ _ hnext' hheld
  rcases lockMove_cases _ _ s with hsame | ⟨t, call, -, -, hs'⟩ | ⟨t, thread, -, -, -, hs'⟩ |
    ⟨t, thread, step, holder, hmove, ht, -, htake, hs'⟩
  · rw [hsame] at hhas hthread
    exact .inl ⟨hhas, thread', hthread, hnext'⟩
  · rw [hs'] at hhas hthread
    by_cases heq : u = t
    · have hthread : Function.update s.threads t (some ⟨call, 0⟩) u = some thread' := hthread
      rw [heq, Function.update_self] at hthread
      cases hthread
      cases hpos
    · exact .inl ⟨hhas, thread', (Function.update_of_ne heq ..).symm.trans hthread, hnext'⟩
  · rw [hs'] at hhas hthread
    by_cases heq : u = t
    · have hthread : Function.update s.threads t none u = some thread' := hthread
      rw [heq, Function.update_self] at hthread
      cases hthread
    · exact .inl ⟨hhas, thread', (Function.update_of_ne heq ..).symm.trans hthread, hnext'⟩
  · rw [hs'] at hhas hthread
    by_cases heq : u = t
    · subst heq
      have hthread : Function.update s.threads u (some thread.after) u = some thread' := hthread
      rw [Function.update_self] at hthread
      cases hthread
      have hzero : thread.pos = 0 := Nat.succ.inj hpos
      rcases LockStep.take_holder htake hhas with ⟨-, hfree, -⟩ | ⟨-, hold⟩
      · exact .inr ⟨thread, hmove, ht, hzero, hfree, hpair⟩
      -- Before its first step a thread has no lock.
      have hheld := h.held ht hold
      rw [LockThread.held, hzero] at hheld
      cases hheld
    · refine .inl ⟨?_, thread', (Function.update_of_ne heq ..).symm.trans hthread, hnext'⟩
      rcases LockStep.take_holder htake hhas with ⟨-, -, hself⟩ | ⟨-, hold⟩
      · exact absurd hself heq
      · exact hold

end System

end OpxSai
