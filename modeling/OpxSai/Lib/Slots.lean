import Mathlib.Data.List.Basic
import Mathlib.Tactic.Common

/-!
# Slots that are emptied one by one

A state has a slot for each of some types. A walk over types empties the slots that are not empty, and
stops at the first one that it can not empty. The slots that it came past can be filled again with what
they had.

* `takeEach`, `giveEach` — the two walks;
* `takeEach_spec` — what the first one leaves;
* `takeEach_keeps`, `giveEach_keeps` — what each step keeps, the walk keeps;
* `putBack_iff` — all is as before exactly when the slot at which the walk stopped was left alone.
-/

namespace OpxSai

variable {R S T O : Type} [DecidableEq R] [DecidableEq O] {types : List T}

/-- What a walk leaves: its status, whether a slot was emptied, the types before the one at which it
stopped, and the state. -/
structure Taken (R T S : Type) where
  rc : R
  taken : Bool
  walked : List T
  state : S

section Walk

variable (good : R) (empty : O) (slot : S → T → O) (take : T → S → R × S)

def takeEach : List T → S → Taken R T S
  | [], s => ⟨good, false, [], s⟩
  | t :: types, s =>
    if slot s t = empty then
      let rest := takeEach types s
      { rest with walked := t :: rest.walked }
    else
      let set := take t s
      if set.1 ≠ good then ⟨set.1, false, [], set.2⟩
      else
        let rest := takeEach types set.2
        { rest with taken := true, walked := t :: rest.walked }

def giveEach (had : T → O) (give : T → S → S) : List T → S → S
  | [], s => s
  | t :: types, s => giveEach had give types (if had t = empty then s else give t s)

/-- The walk stops, in a state in which something holds. -/
def StopsWhere (P : T → S → Prop) : List T → S → Prop
  | [], _ => False
  | t :: types, s =>
    if slot s t = empty then StopsWhere P types s
    else if (take t s).1 ≠ good then P t s
    else StopsWhere P types (take t s).2

/-- What a step does to the slots, in the states of an invariant. -/
structure TakesSlots (Q : S → Prop) : Prop where
  keeps : ∀ t s, Q s → slot s t ≠ empty → Q (take t s).2
  taken : ∀ t s, Q s → slot s t ≠ empty → (take t s).1 = good → slot (take t s).2 t = empty
  other : ∀ t s, Q s → slot s t ≠ empty → ∀ t' ≠ t, slot (take t s).2 t' = slot s t'

structure GivesSlots (had : T → O) (give : T → S → S) (Q : S → Prop) (fits : T → Prop) : Prop where
  keeps : ∀ t s, Q s → fits t → Q (give t s)
  given : ∀ t s, Q s → fits t → slot (give t s) t = had t
  other : ∀ t s, Q s → fits t → ∀ t' ≠ t, slot (give t s) t' = slot s t'

end Walk

section Take

variable {good : R} {empty : O} {slot : S → T → O} {take : T → S → R × S} {Q : S → Prop}

theorem TakesSlots.of_step [DecidableEq T] (h : ∀ t s, Q s → slot s t ≠ empty → Q (take t s).2 ∧
      (((take t s).1 ≠ good ∧ slot (take t s).2 = slot s) ∨
        ∀ t', slot (take t s).2 t' = if t' = t then empty else slot s t')) :
    TakesSlots good empty slot take Q := by
  refine ⟨fun t s hs hslot => (h t s hs hslot).1, fun t s hs hslot hok => ?_,
    fun t s hs hslot t' hne => ?_⟩
  · rcases (h t s hs hslot).2 with ⟨hfail, -⟩ | hgone
    · exact absurd hok hfail
    · exact (hgone t).trans (if_pos rfl)
  · rcases (h t s hs hslot).2 with ⟨-, hsame⟩ | hgone
    · exact congrFun hsame t'
    · exact (hgone t').trans (if_neg hne)

theorem GivesSlots.of_step [DecidableEq T] {had : T → O} {give : T → S → S} {fits : T → Prop}
    (h : ∀ t s, Q s → fits t → Q (give t s) ∧
      ∀ t', slot (give t s) t' = if t' = t then had t else slot s t') :
    GivesSlots slot had give Q fits :=
  ⟨fun t s hs hfits => (h t s hs hfits).1,
    fun t s hs hfits => ((h t s hs hfits).2 t).trans (if_pos rfl),
    fun t s hs hfits t' hne => ((h t s hs hfits).2 t').trans (if_neg hne)⟩

theorem takeEach_keeps {P : S → Prop} (hstep : ∀ t s, P s → slot s t ≠ empty → P (take t s).2) :
    ∀ {s : S}, P s → P (takeEach good empty slot take types s).state := by
  induction types with
  | nil => exact fun h => h
  | cons t types ih =>
    intro s h
    simp only [takeEach]
    split
    · exact ih h
    rename_i hslot
    split
    · exact hstep t s h hslot
    · exact ih (hstep t s h hslot)

theorem StopsWhere.congr {P P' : T → S → Prop} (h : TakesSlots good empty slot take Q)
    (hiff : ∀ t s, Q s → slot s t ≠ empty → (take t s).1 ≠ good → (P t s ↔ P' t s)) {types : List T} :
    ∀ {s : S}, Q s →
      (StopsWhere good empty slot take P types s ↔ StopsWhere good empty slot take P' types s) := by
  induction types with
  | nil => exact fun _ => Iff.rfl
  | cons t types ih =>
    intro s hQ
    simp only [StopsWhere]
    split
    · exact ih hQ
    rename_i hslot
    split
    next hfail => exact hiff t s hQ hslot hfail
    · exact ih (h.keeps t s hQ hslot)

theorem StopsWhere.state {P : T → S → Prop} (h : TakesSlots good empty slot take Q) :
    ∀ {s : S}, Q s → StopsWhere good empty slot take P types s →
      ∃ t s', Q s' ∧ slot s' t ≠ empty ∧ (take t s').1 ≠ good ∧ P t s' := by
  induction types with
  | nil => exact fun _ hstop => hstop.elim
  | cons t types ih =>
    intro s hQ hstop
    simp only [StopsWhere] at hstop
    split at hstop
    · exact ih hQ hstop
    rename_i hslot
    split at hstop
    next hfail => exact ⟨t, s, hQ, hslot, hfail, hstop⟩
    · exact ih (h.keeps t s hQ hslot) hstop

theorem StopsWhere.rc {P : T → S → Prop} :
    ∀ {s : S}, StopsWhere good empty slot take P types s → (takeEach good empty slot take types s).rc ≠ good:= by
  induction types with
  | nil => exact fun hstop => hstop.elim
  | cons t types ih =>
    intro s hstop
    simp only [StopsWhere] at hstop
    simp only [takeEach]
    split at hstop
    next hslot =>
      rw [if_pos hslot]
      exact ih hstop
    rename_i hslot
    rw [if_neg hslot]
    split at hstop
    next hfail =>
      rw [if_pos hfail]
      exact hfail
    rename_i hok
    rw [if_neg hok]
    exact ih hstop

theorem takeEach_of_empty {s : S} (hempty : ∀ t ∈ types, slot s t = empty) :
    (takeEach good empty slot take types s).state = s := by
  induction types with
  | nil => rfl
  | cons t types ih =>
    simp only [takeEach, if_pos (hempty t List.mem_cons_self)]
    exact ih fun t' hmem => hempty t' (List.mem_cons_of_mem t hmem)

structure WalkLeaves (good : R) (empty : O) (slot : S → T → O) (take : T → S → R × S) (Q : S → Prop)
    (types : List T) (s : S) (w : Taken R T S) : Prop where
  /-- The types come in order, and all of them when the walk does not stop. -/
  walked : ∃ rest, types = w.walked ++ rest ∧ (w.rc = good → rest = [])
  emptied : ∀ t ∈ w.walked, slot w.state t = empty
  taken : w.taken = true ↔ ∃ t ∈ w.walked, slot s t ≠ empty
  /-- What was taken came off in a state of the invariant. -/
  from_ : ∀ t ∈ w.walked, slot s t ≠ empty →
    ∃ s', Q s' ∧ slot s' t = slot s t ∧ (take t s').1 = good
  others : ∀ t ∉ types, slot w.state t = slot s t
  left : (∀ t ∉ w.walked, slot w.state t = slot s t) ↔
    ¬ StopsWhere good empty slot take (fun t s => slot (take t s).2 t ≠ slot s t) types s

theorem takeEach_spec (h : TakesSlots good empty slot take Q) (hnodup : types.Nodup) :
    ∀ {s : S}, Q s →
      WalkLeaves good empty slot take Q types s (takeEach good empty slot take types s) := by
  induction types with
  | nil =>
    intro s _
    refine ⟨⟨[], rfl, fun _ => rfl⟩, ?_, ?_, ?_, fun _ _ => rfl, iff_of_true (fun _ _ => rfl) id⟩
    · exact fun t ht => absurd ht List.not_mem_nil
    · exact iff_of_false (by simp [takeEach]) fun ⟨t, ht, _⟩ => absurd ht List.not_mem_nil
    · exact fun t ht => absurd ht List.not_mem_nil
  | cons t types ih =>
    intro s hQ
    obtain ⟨hfresh, hnodup⟩ := List.nodup_cons.mp hnodup
    simp only [takeEach]
    split
    · -- An empty slot: the walk goes on.
      rename_i hslot
      have hrest := ih hnodup hQ
      generalize takeEach good empty slot take types s = w at hrest
      obtain ⟨rest, htypes, hall⟩ := hrest.walked
      refine ⟨⟨rest, by rw [htypes]; rfl, hall⟩, ?_, ?_, ?_, ?_, ?_⟩
      · intro t' ht'
        rcases List.mem_cons.mp ht' with rfl | hmem
        · exact (hrest.others _ hfresh).trans hslot
        · exact hrest.emptied t' hmem
      · rw [hrest.taken]
        simp [hslot]
      · intro t' ht' hne
        rcases List.mem_cons.mp ht' with rfl | hmem
        · exact absurd hslot hne
        · exact hrest.from_ t' hmem hne
      · exact fun t' ht' => hrest.others t' fun hmem => ht' (List.mem_cons_of_mem _ hmem)
      · simp only [StopsWhere, if_pos hslot, ← hrest.left]
        constructor
        · intro hleft t' ht'
          by_cases heq : t' = t
          · subst heq
            exact hrest.others _ hfresh
          · exact hleft t' fun hmem => (List.mem_cons.mp hmem).elim heq ht'
        · exact fun hleft t' ht' => hleft t' fun hmem => ht' (List.mem_cons_of_mem _ hmem)
    rename_i hslot
    have hother := h.other t s hQ hslot
    split
    · -- The slot can not be emptied: the walk stops.
      rename_i hfail
      refine ⟨⟨t :: types, rfl, fun hgood => absurd hgood hfail⟩, fun t' ht' => (by cases ht'),
        by simp, fun t' ht' => (by cases ht'), ?_, ?_⟩
      · exact fun t' ht' => hother t' fun heq => ht' (heq ▸ List.mem_cons_self)
      · simp only [StopsWhere, if_neg hslot, if_pos hfail, not_not]
        constructor
        · exact fun hleft => hleft t (List.not_mem_nil)
        · intro hleft t' _
          by_cases heq : t' = t
          · rw [heq]
            exact hleft
          · exact hother t' heq
    · -- It is empty now.
      rename_i hgood
      have hgood := not_not.mp hgood
      have hrest := ih hnodup (h.keeps t s hQ hslot)
      have hempty := h.taken t s hQ hslot hgood
      have hstay : ∀ t' ∈ types, slot (take t s).2 t' = slot s t' := fun t' hmem =>
        hother t' fun heq => hfresh (heq ▸ hmem)
      generalize takeEach good empty slot take types (take t s).2 = w at hrest ⊢
      obtain ⟨rest, htypes, hall⟩ := hrest.walked
      have hwalked : ∀ t' ∈ w.walked, t' ∈ types := fun t' hmem =>
        htypes ▸ List.mem_append_left rest hmem
      refine ⟨⟨rest, by rw [htypes]; rfl, hall⟩, ?_, ?_, ?_, ?_, ?_⟩
      · intro t' ht'
        rcases List.mem_cons.mp ht' with rfl | hmem
        · exact (hrest.others _ hfresh).trans hempty
        · exact hrest.emptied t' hmem
      · exact iff_of_true rfl ⟨t, List.mem_cons_self, hslot⟩
      · intro t' ht' hne
        rcases List.mem_cons.mp ht' with rfl | hmem
        · exact ⟨s, hQ, rfl, hgood⟩
        obtain ⟨s', hQ', hslot', hgood'⟩ :=
          hrest.from_ t' hmem (by rw [hstay t' (hwalked t' hmem)]; exact hne)
        exact ⟨s', hQ', hslot'.trans (hstay t' (hwalked t' hmem)), hgood'⟩
      · intro t' ht'
        have hne : t' ≠ t := fun heq => ht' (heq ▸ List.mem_cons_self)
        exact (hrest.others t' fun hmem => ht' (List.mem_cons_of_mem _ hmem)).trans (hother t' hne)
      · rw [StopsWhere, if_neg hslot, if_neg (not_not.mpr hgood), ← hrest.left]
        constructor
        · intro hleft t' ht'
          by_cases heq : t' = t
          · subst heq
            exact hrest.others _ hfresh
          · rw [hother t' heq]
            exact hleft t' fun hmem => (List.mem_cons.mp hmem).elim heq ht'
        · intro hleft t' ht'
          have hne : t' ≠ t := fun heq => ht' (heq ▸ List.mem_cons_self)
          exact (hleft t' fun hmem => ht' (List.mem_cons_of_mem _ hmem)).trans (hother t' hne)

/-- A walk that does not stop leaves no slot of its types filled. -/
theorem WalkLeaves.all {s : S} {w : Taken R T S}
    (h : WalkLeaves good empty slot take Q types s w) (hgood : w.rc = good) : w.walked = types := by
  obtain ⟨rest, htypes, hall⟩ := h.walked
  rw [htypes, hall hgood, List.append_nil]

end Take

section Give

variable {empty : O} {slot : S → T → O} {Q : S → Prop} {had : T → O} {give : T → S → S}
  {fits : T → Prop}

/-- What each step back keeps, the way back keeps. -/
theorem giveEach_keeps {P : S → Prop} (hstep : ∀ t s, P s → had t ≠ empty → P (give t s)) :
    ∀ {s : S}, P s → P (giveEach empty had give types s) := by
  induction types with
  | nil => exact fun h => h
  | cons t types ih =>
    intro s h
    simp only [giveEach]
    split
    · exact ih h
    next hslot => exact ih (hstep t s h hslot)

theorem giveEach_of_empty {s : S} (hempty : ∀ t ∈ types, had t = empty) :
    giveEach empty had give types s = s := by
  induction types with
  | nil => rfl
  | cons t types ih =>
    simp only [giveEach, if_pos (hempty t List.mem_cons_self)]
    exact ih fun t' hmem => hempty t' (List.mem_cons_of_mem t hmem)

/-- **The way back.** The slots of the types have what they had, and the others are left. -/
theorem giveEach_spec (h : GivesSlots slot had give Q fits) :
    ∀ {s : S}, Q s → (∀ t ∈ types, had t ≠ empty → fits t) →
      Q (giveEach empty had give types s) ∧
      (∀ t ∈ types, had t ≠ empty → slot (giveEach empty had give types s) t = had t) ∧
      (∀ t, (t ∈ types → had t = empty) → slot (giveEach empty had give types s) t = slot s t) := by
  induction types with
  | nil => exact fun hQ _ => ⟨hQ, fun t ht => (by cases ht), fun _ _ => rfl⟩
  | cons t types ih =>
    intro s hQ hfits
    have hfits' : ∀ t' ∈ types, had t' ≠ empty → fits t' := fun t' hmem =>
      hfits t' (List.mem_cons_of_mem _ hmem)
    simp only [giveEach]
    by_cases hslot : had t = empty
    · rw [if_pos hslot]
      obtain ⟨hkept, hgiven, hleft⟩ := ih hQ hfits'
      refine ⟨hkept, fun t' ht' hne => ?_, fun t' ht' => ?_⟩
      · rcases List.mem_cons.mp ht' with rfl | hmem
        · exact absurd hslot hne
        · exact hgiven t' hmem hne
      · exact hleft t' fun hmem => ht' (List.mem_cons_of_mem _ hmem)
    · rw [if_neg hslot]
      have hfit := hfits t List.mem_cons_self hslot
      obtain ⟨hkept, hgiven, hleft⟩ := ih (h.keeps t s hQ hfit) hfits'
      refine ⟨hkept, fun t' ht' hne => ?_, fun t' ht' => ?_⟩
      · by_cases hmem : t' ∈ types
        · exact hgiven t' hmem hne
        · obtain rfl := (List.mem_cons.mp ht').resolve_right hmem
          exact (hleft _ fun hmem' => absurd hmem' hmem).trans (h.given _ s hQ hfit)
      · have hne : t' ≠ t := fun heq => hslot (heq ▸ ht' (heq ▸ List.mem_cons_self))
        exact (hleft t' fun hmem => ht' (List.mem_cons_of_mem _ hmem)).trans
          (h.other t s hQ hfit t' hne)

end Give

section PutBack

variable {good : R} {empty : O} {slot : S → T → O} {take : T → S → R × S} {Q : S → Prop}
  {give : T → S → S} {fits : T → Prop} {types : List T} {s : S} {w : Taken R T S}

def putBack (empty : O) (had : T → O) (give : T → S → S) (w : Taken R T S) : S :=
  if w.taken = true then giveEach empty had give w.walked w.state else w.state

/-- **All is as before** exactly when the slot at which the walk stopped was left alone. -/
theorem putBack_iff (hw : WalkLeaves good empty slot take Q types s w) (hQ : Q w.state)
    (hgive : GivesSlots slot (slot s) give Q fits)
    (hfits : ∀ t ∈ w.walked, slot s t ≠ empty → fits t) :
    Q (putBack empty (slot s) give w) ∧
    (slot (putBack empty (slot s) give w) = slot s ↔
      ¬ StopsWhere good empty slot take (fun t s => slot (take t s).2 t ≠ slot s t) types s) := by
  rw [← hw.left]
  simp only [putBack]
  split
  · obtain ⟨hkept, hgiven, hleft⟩ := giveEach_spec hgive hQ hfits
    have hwalked : ∀ t ∈ w.walked,
        slot (giveEach empty (slot s) give w.walked w.state) t = slot s t := by
      intro t ht
      by_cases hslot : slot s t = empty
      · rw [hleft t fun _ => hslot, hw.emptied t ht, hslot]
      · exact hgiven t ht hslot
    refine ⟨hkept, fun heq t ht => ?_, fun hothers => funext fun t => ?_⟩
    · rw [← hleft t fun hmem => absurd hmem ht, heq]
    · by_cases ht : t ∈ w.walked
      · exact hwalked t ht
      · rw [hleft t fun hmem => absurd hmem ht]
        exact hothers t ht
  next hnone =>
    refine ⟨hQ, fun heq t _ => congrFun heq t, fun hothers => funext fun t => ?_⟩
    by_cases ht : t ∈ w.walked
    · by_contra hne
      refine hnone (hw.taken.mpr ⟨t, ht, fun hslot => hne ?_⟩)
      rw [hw.emptied t ht, hslot]
    · exact hothers t ht

end PutBack

end OpxSai
