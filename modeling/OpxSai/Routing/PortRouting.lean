import OpxSai.Routing.LagRifMap

/-!
# Routing — the routing mode of ports

The mode of a port is one flag without a count. Creating a router interface puts its port, or
the ports of its LAG, into routing mode; removing it takes them out; and the ports that join or
leave a LAG are put in or taken out by a callback. A list of ports is worked through in order,
and when a port fails, the opposite is done to the ports before it.

* `PortModes` — a port is in routing mode exactly when a router interface uses it;
* `portsFollow_of_run` — when a run keeps it so.
-/

variable {σ : PortSys} (env : Env)

namespace OpxSai

open Fib
variable {attr_list : List RifAttr} {rif_id lag_id port_id : Oid}

/-! ## One port -/

def routingMode (is_set : Bool) : PortFwdMode := if is_set then .routing else .unknown

def PortRead (is_set clnup : Bool) (index : Nat) (port_id : Oid) : Prop :=
  env.status (.portForwardModeInfo port_id index is_set false clnup) = .success

def PortDone (is_set clnup : Bool) (index : Nat) (port_id : Oid) : Prop :=
  PortRead env is_set clnup index port_id ∧
    env.status (.portForwardModeInfo port_id index is_set true clnup) = .success

/-- The update of a port in `mode` succeeds: the write of a reset must succeed, unless there is
nothing to reset; that of a set is not looked at. -/
def PortOk (is_set clnup : Bool) (index : Nat) (port_id : Oid) (mode : PortFwdMode) : Prop :=
  PortRead env is_set clnup index port_id ∧
    (is_set = true ∨ mode = .unknown ∨ PortDone env is_set clnup index port_id)

instance (env : Env) (is_set clnup : Bool) (index : Nat) (port_id : Oid) :
    Decidable (PortRead env is_set clnup index port_id) :=
  inferInstanceAs (Decidable (_ = _))

instance (env : Env) (is_set clnup : Bool) (index : Nat) (port_id : Oid) :
    Decidable (PortDone env is_set clnup index port_id) :=
  inferInstanceAs (Decidable (_ ∧ _))

section Ports

variable {env : Env} {is_set clnup : Bool} {s : Fib} {list : List Oid}

theorem portFwdModeWrite_mode (env) (p) (i : Nat) (is_set clnup : Bool) (s) :
    (portFwdModeWrite env p i (routingMode is_set) clnup s).2.port_fwd_mode = fun q =>
      if q = p ∧ env.status (.portForwardModeInfo p i is_set true clnup) = .success then
        routingMode is_set
      else s.port_fwd_mode q := by
  have hmode : decide (routingMode is_set = .routing) = is_set := by cases is_set <;> rfl
  unfold portFwdModeWrite
  rw [hmode]
  simp only
  by_cases hwrite : env.status (.portForwardModeInfo p i is_set true clnup) = .success
  · have hcall : (s.call env (.portForwardModeInfo p i is_set true clnup)).1 = .success := hwrite
    rw [if_pos hcall]
    simp only [hwrite, and_true]
  have hcall : (s.call env (.portForwardModeInfo p i is_set true clnup)).1 ≠ .success := hwrite
  rw [if_neg hcall]
  funext q
  rw [if_neg fun h => hwrite h.2]
  rfl

/-- Setting and resetting are one function, but for the write whose status is looked at. -/
theorem portRoutingModeUpdate_eq (env) (is_set clnup : Bool) (i : Nat) (p) (s) :
    portRoutingModeUpdate env is_set i clnup p s =
      andThen (s.call env (.portForwardModeInfo p i is_set false clnup)) fun s =>
        if s.port_fwd_mode p = routingMode is_set then (.success, s)
        else
          (if is_set then .success
            else (portFwdModeWrite env p i (routingMode is_set) clnup s).1,
            (portFwdModeWrite env p i (routingMode is_set) clnup s).2) := by
  cases is_set <;> rfl

theorem portRoutingModeUpdate_mode (env) (is_set clnup : Bool) (i : Nat) (p)
    (s) (q) :
    (portRoutingModeUpdate env is_set i clnup p s).2.port_fwd_mode q =
      if q = p ∧ PortDone env is_set clnup i p then routingMode is_set
      else s.port_fwd_mode q := by
  rw [portRoutingModeUpdate_eq]
  by_cases hread : PortRead env is_set clnup i p
  · rw [andThen_of_success (x := s.call env _) hread]
    generalize hu : (s.call _ _).2 = u
    have hmode : u.port_fwd_mode = s.port_fwd_mode := by rw [← hu]; rfl
    have hwrite := congrFun (portFwdModeWrite_mode env p i is_set clnup u) q
    rw [hmode] at hwrite ⊢
    simp only [PortDone, hread, true_and]
    split
    next hthere =>
      rw [hmode]
      split
      next hq => rw [hq.1, hthere]
      · rfl
    · exact hwrite
  · rw [andThen_of_failure (x := s.call env _) hread, if_neg fun h => hread h.2.1]
    rfl

theorem portRoutingModeUpdate_status (env) (is_set clnup : Bool) (i : Nat) (p)
    (s) : (portRoutingModeUpdate env is_set i clnup p s).1 = .success ↔
      PortOk env is_set clnup i p (s.port_fwd_mode p) := by
  rw [portRoutingModeUpdate_eq]
  unfold PortOk
  by_cases hread : PortRead env is_set clnup i p
  · rw [andThen_of_success (x := s.call env _) hread]
    generalize hu : (s.call _ _).2 = u
    have hmode : u.port_fwd_mode = s.port_fwd_mode := by rw [← hu]; rfl
    rw [hmode]
    simp only [PortDone, hread, true_and]
    cases is_set with
    | true => split <;> simp
    | false =>
      simp only [Bool.false_eq_true, if_false, false_or]
      split
      next hthere => exact iff_of_true rfl (.inl hthere)
      rename_i hthere
      have hno : s.port_fwd_mode p ≠ .unknown := hthere
      simp only [hno, false_or]
      unfold portFwdModeWrite
      simp only
      split
      next hcall => exact iff_of_true hcall hcall
      next hcall => exact iff_of_false hcall hcall
  · rw [andThen_of_failure (x := s.call env _) hread]
    exact iff_of_false hread fun h => hread h.1

open Classical in
theorem portListUndo_mode (env) (is_set : Bool) (l : List (Oid × Nat)) (s) (q) :
    (l.foldl (fun s p => (portRoutingModeUpdate env is_set p.2 true p.1 s).2) s).port_fwd_mode q =
      if ∃ j, (q, j) ∈ l ∧ PortDone env is_set true j q then routingMode is_set
      else s.port_fwd_mode q := by
  induction l generalizing s with
  | nil => simp
  | cons x l ih =>
    obtain ⟨p, i⟩ := x
    rw [List.foldl_cons, ih, portRoutingModeUpdate_mode]
    simp only [List.mem_cons, Prod.mk.injEq]
    by_cases hlater : ∃ j, (q, j) ∈ l ∧ PortDone env is_set true j q
    · obtain ⟨j, hj, hdone⟩ := hlater
      rw [if_pos ⟨j, hj, hdone⟩, if_pos ⟨j, .inr hj, hdone⟩]
    rw [if_neg hlater]
    by_cases hhere : q = p ∧ PortDone env is_set true i p
    · obtain ⟨rfl, hdone⟩ := hhere
      rw [if_pos ⟨rfl, hdone⟩, if_pos ⟨i, .inl ⟨rfl, rfl⟩, hdone⟩]
    rw [if_neg hhere, if_neg]
    rintro ⟨j, ⟨rfl, rfl⟩ | hj, hdone⟩
    · exact hhere ⟨rfl, hdone⟩
    · exact hlater ⟨j, hj, hdone⟩

end Ports

/-! ## A list of ports -/

/-- The ports before position `k` succeed, and the one at `k`, if there is one, does not. -/
structure PortsStopAt (env : Env) (is_set : Bool) (list : List Oid) (mode : Oid → PortFwdMode)
    (k : Nat) : Prop where
  done : ∀ j q, j < k → list[j]? = some q → PortOk env is_set false j q (mode q)
  stop : ∀ q, list[k]? = some q → ¬ PortOk env is_set false k q (mode q)

theorem nodup_getElem?_inj {list : List Oid} (hnodup : list.Nodup) {i j : Nat} {q : Oid}
    (hi : list[i]? = some q) (hj : list[j]? = some q) : i = j := by
  have hlt : i < list.length := (List.getElem?_eq_some_iff.mp hi).1
  exact (List.getElem?_inj hlt hnodup).mp (hi.trans hj.symm)

section Lists

variable {env : Env} {is_set : Bool} {s : Fib} {list : List Oid}

variable (env is_set) in

open Classical in
theorem portListUpdateFrom_spec (hnodup : list.Nodup) (i : Nat) (s) :
    ∃ k ≤ list.length, (portListUpdateFrom env is_set i list s).1 = i + k ∧
      ((portListUpdateFrom env is_set i list s).2.1 = .success ↔ k = list.length) ∧
      (∀ j q, j < k → list[j]? = some q →
        PortOk env is_set false (i + j) q (s.port_fwd_mode q)) ∧
      (∀ q, list[k]? = some q → ¬ PortOk env is_set false (i + k) q (s.port_fwd_mode q)) ∧
      ∀ q, (portListUpdateFrom env is_set i list s).2.2.port_fwd_mode q =
        if ∃ j, j < k ∧ list[j]? = some q ∧ PortDone env is_set false (i + j) q then
          routingMode is_set
        else s.port_fwd_mode q := by
  induction list generalizing i s with
  | nil =>
    refine ⟨0, Nat.le_refl _, rfl, iff_of_true rfl rfl, fun j q hj => ?_, fun q hq => ?_,
      fun q => ?_⟩
    · exact absurd hj (Nat.not_lt_zero j)
    · simp at hq
    · rw [if_neg fun ⟨j, hj, _⟩ => absurd hj (Nat.not_lt_zero j)]
      rfl
  | cons p list ih =>
    obtain ⟨hp, hnodup⟩ := List.nodup_cons.mp hnodup
    have hstatus := portRoutingModeUpdate_status env is_set false i p s
    have hmode := portRoutingModeUpdate_mode env is_set false i p s
    unfold portListUpdateFrom
    by_cases hok : PortOk env is_set false i p (s.port_fwd_mode p)
    · rw [← hstatus] at hok
      generalize portRoutingModeUpdate _ _ i _ p s = x at hok hmode hstatus
      obtain ⟨status, t⟩ := x
      obtain rfl : status = .success := hok
      have hfirst := hstatus.mp rfl
      obtain ⟨k, hk, hindex, hsuccess, hdone, hstop, hmodes⟩ := ih hnodup (i + 1) t
      -- the first port is not among the others
      have hrest : ∀ (j : Nat) q, list[j]? = some q → t.port_fwd_mode q = s.port_fwd_mode q := by
        intro j q hj
        have hne : q ≠ p := by
          rintro rfl
          exact hp (List.mem_of_getElem? hj)
        rw [hmode, if_neg fun h => hne h.1]
      refine ⟨k + 1, Nat.succ_le_succ hk, ?_, ?_, fun j q hj hq => ?_, fun q hq => ?_,
        fun q => ?_⟩
      · simp only
        rw [hindex]
        omega
      · simp only [List.length_cons]
        rw [hsuccess]
        omega
      · cases j with
        | zero =>
          obtain rfl : p = q := Option.some.inj hq
          exact hfirst
        | succ j =>
          have hq' : list[j]? = some q := hq
          have hj' := hdone j q (Nat.lt_of_succ_lt_succ hj) hq'
          rw [hrest j q hq'] at hj'
          rw [show i + (j + 1) = i + 1 + j by omega]
          exact hj'
      · have hq' : list[k]? = some q := hq
        have hk' := hstop q hq'
        rw [hrest k q hq'] at hk'
        rw [show i + (k + 1) = i + 1 + k by omega]
        exact hk'
      · simp only
        rw [hmodes, hmode]
        by_cases hlater : ∃ j, j < k ∧ list[j]? = some q ∧ PortDone env is_set false (i + 1 + j) q
        · obtain ⟨j, hj, hq, hd⟩ := hlater
          rw [if_pos ⟨j, hj, hq, hd⟩, if_pos]
          exact ⟨j + 1, Nat.succ_lt_succ hj, hq, by
            rw [show i + (j + 1) = i + 1 + j by omega]
            exact hd⟩
        rw [if_neg hlater]
        by_cases hhere : q = p ∧ PortDone env is_set false i p
        · obtain ⟨rfl, hd⟩ := hhere
          rw [if_pos ⟨rfl, hd⟩, if_pos ⟨0, Nat.succ_pos k, rfl, hd⟩]
        rw [if_neg hhere, if_neg]
        rintro ⟨j, hj, hq, hd⟩
        cases j with
        | zero =>
          obtain rfl : p = q := Option.some.inj hq
          exact hhere ⟨rfl, hd⟩
        | succ j =>
          rw [show i + (j + 1) = i + 1 + j by omega] at hd
          exact hlater ⟨j, Nat.lt_of_succ_lt_succ hj, hq, hd⟩
    · rw [← hstatus] at hok
      have hnone : ¬ PortDone env is_set false i p := fun hd => hok (hstatus.mpr
        ⟨hd.1, .inr (.inr hd)⟩)
      have hsame : ∀ q, (portRoutingModeUpdate env is_set i false p s).2.port_fwd_mode q =
          s.port_fwd_mode q := fun q => by rw [hmode, if_neg fun h => hnone h.2]
      generalize portRoutingModeUpdate _ _ i _ p s = x at hok hsame hstatus
      obtain ⟨status, t⟩ := x
      have hfail : status ≠ .success := hok
      refine ⟨0, Nat.zero_le _, ?_, ?_, fun j q hj => absurd hj (Nat.not_lt_zero j),
        fun q hq => ?_, fun q => ?_⟩
      · split
        next heq => exact absurd (Prod.mk.inj heq).1 hfail
        · rfl
      · split
        next heq => exact absurd (Prod.mk.inj heq).1 hfail
        rename_i heq
        obtain ⟨rfl, -⟩ := Prod.mk.inj heq
        simp [hfail]
      · obtain rfl : p = q := Option.some.inj hq
        exact fun h => hok (hstatus.mpr h)
      · rw [if_neg (by rintro ⟨j, hj, -⟩; exact absurd hj (Nat.not_lt_zero j))]
        split
        next heq => exact absurd (Prod.mk.inj heq).1 hfail
        rename_i heq
        obtain ⟨-, rfl⟩ := Prod.mk.inj heq
        exact hsame q

theorem portListRoutingModeUpdate_done (hnodup : list.Nodup)
    (hok : ∀ (j : Nat) q, list[j]? = some q → PortOk env is_set false j q (s.port_fwd_mode q)) :
    (portListRoutingModeUpdate env list is_set s).1 = .success ∧
      (∀ (j : Nat) q, list[j]? = some q →
        (portListRoutingModeUpdate env list is_set s).2.port_fwd_mode q =
          if PortDone env is_set false j q then routingMode is_set else s.port_fwd_mode q) ∧
      ∀ q, q ∉ list → (portListRoutingModeUpdate env list is_set s).2.port_fwd_mode q =
        s.port_fwd_mode q := by
  obtain ⟨k, hk, -, hsuccess, -, hstop, hmodes⟩ := portListUpdateFrom_spec env _
    hnodup 0 s
  have hend : k = list.length := by
    by_contra hne
    have hlt : k < list.length := by omega
    have hget : list[k]? = some list[k] := List.getElem?_eq_getElem hlt
    have hfail := hstop _ hget
    rw [Nat.zero_add] at hfail
    exact hfail (hok k _ hget)
  have hall := hsuccess.mpr hend
  unfold portListRoutingModeUpdate
  simp only
  rw [if_pos hall]
  refine ⟨hall, fun j q hj => ?_, fun q hq => ?_⟩
  · have hjlt : j < list.length := (List.getElem?_eq_some_iff.mp hj).1
    rw [hmodes q]
    by_cases hdone : PortDone env is_set false j q
    · rw [if_pos hdone, if_pos ⟨j, by omega, hj, by rwa [Nat.zero_add]⟩]
    rw [if_neg hdone, if_neg]
    rintro ⟨i, -, hi, hd⟩
    rw [Nat.zero_add, nodup_getElem?_inj hnodup hi hj] at hd
    exact hdone hd
  · rw [hmodes q, if_neg]
    rintro ⟨j, -, hj, -⟩
    exact hq (List.mem_of_getElem? hj)

/-- **A list that fails** at port `k`: the ports before it have been worked on twice. -/
theorem portListRoutingModeUpdate_undone (hnodup : list.Nodup) {k : Nat} (hk : k < list.length)
    (hstop : PortsStopAt env is_set list s.port_fwd_mode k) :
    (portListRoutingModeUpdate env list is_set s).1 ≠ .success ∧
      (∀ j q, j < k → list[j]? = some q →
        (portListRoutingModeUpdate env list is_set s).2.port_fwd_mode q =
          if PortDone env (!is_set) true j q then routingMode !is_set
          else if PortDone env is_set false j q then routingMode is_set
          else s.port_fwd_mode q) ∧
      ∀ q, (∀ j, j < k → list[j]? ≠ some q) →
        (portListRoutingModeUpdate env list is_set s).2.port_fwd_mode q = s.port_fwd_mode q := by
  obtain ⟨i, hi, hindex, hsuccess, hdone, hfail, hmodes⟩ := portListUpdateFrom_spec env _
    hnodup 0 s
  simp only [Nat.zero_add] at hindex hdone hfail hmodes
  have hget : list[k]? = some list[k] := List.getElem?_eq_getElem hk
  -- the first port that fails is the one at `k`
  obtain rfl : i = k := by
    rcases Nat.lt_trichotomy i k with hlt | heq | hgt
    · have hgeti : list[i]? = some list[i] := List.getElem?_eq_getElem (by omega)
      exact absurd (hstop.done i _ hlt hgeti) (hfail _ hgeti)
    · exact heq
    · exact absurd (hdone k _ hgt hget) (hstop.stop _ hget)
  have hno : (portListUpdateFrom env is_set 0 list s).2.1 ≠ .success := fun h => by
    have := hsuccess.mp h
    omega
  have htaken : ∀ q j, (q, j) ∈ (list.take i).zipIdx ↔ j < i ∧ list[j]? = some q := by
    intro q j
    rw [List.mem_zipIdx_iff_getElem?, List.getElem?_take]
    split
    next hlt => simp [hlt]
    next hge => simp [hge]
  unfold portListRoutingModeUpdate
  simp only
  rw [if_neg hno]
  refine ⟨hno, fun j q hj hq => ?_, fun q hq => ?_⟩
  · rw [hindex, portListUndo_mode, hmodes q]
    by_cases hback : PortDone env (!is_set) true j q
    · rw [if_pos hback, if_pos ⟨j, (htaken q j).mpr ⟨hj, hq⟩, hback⟩]
    rw [if_neg hback, if_neg]
    · by_cases hd : PortDone env is_set false j q
      · rw [if_pos hd, if_pos ⟨j, hj, hq, hd⟩]
      rw [if_neg hd, if_neg]
      rintro ⟨j', -, hq', hd'⟩
      rw [nodup_getElem?_inj hnodup hq' hq] at hd'
      exact hd hd'
    rintro ⟨j', hj', hd'⟩
    rw [nodup_getElem?_inj hnodup ((htaken q j').mp hj').2 hq] at hd'
    exact hback hd'
  · rw [hindex, portListUndo_mode, hmodes q, if_neg, if_neg]
    · rintro ⟨j, hj, hqj, -⟩
      exact hq j hj hqj
    · rintro ⟨j, hj, -⟩
      exact hq j ((htaken q j).mp hj).1 ((htaken q j).mp hj).2

variable (env is_set list) in

open Classical in
theorem portsStopAt_or (mode : Oid → PortFwdMode) :
    (∀ (j : Nat) q, list[j]? = some q → PortOk env is_set false j q (mode q)) ∨
      ∃ k < list.length, PortsStopAt env is_set list mode k := by
  by_cases hfail : ∃ (k : Nat) (q : Oid), list[k]? = some q ∧ ¬ PortOk env is_set false k q (mode q)
  · obtain ⟨q, hq, hno⟩ := Nat.find_spec hfail
    refine .inr ⟨Nat.find hfail, (List.getElem?_eq_some_iff.mp hq).1, fun j r hj hr => ?_,
      fun r hr => ?_⟩
    · by_contra hnot
      exact Nat.find_min hfail hj ⟨r, hr, hnot⟩
    · obtain rfl : q = r := Option.some.inj (hq.symm.trans hr)
      exact hno
  · refine .inl fun j q hq => ?_
    by_contra hno
    exact hfail ⟨j, q, hq, hno⟩

/-- A port in `mode` that is worked on, and then the other way round, is in `mode` again. -/
def PortPutBack (env : Env) (is_set : Bool) (index : Nat) (port_id : Oid) (mode : PortFwdMode) :
    Prop :=
  (PortDone env (!is_set) true index port_id → mode = routingMode !is_set) ∧
    (¬ PortDone env (!is_set) true index port_id → PortDone env is_set false index port_id →
      mode = routingMode is_set)

/-- The ports before the first one that fails are put back into the mode they had. -/
def PortListUndone (env : Env) (is_set : Bool) (list : List Oid) (mode : Oid → PortFwdMode) :
    Prop :=
  ∀ k < list.length, PortsStopAt env is_set list mode k →
    ∀ j q, j < k → list[j]? = some q → PortPutBack env is_set j q (mode q)

def PortListAtomic (env : Env) (is_set : Bool) (list : List Oid) (s : Fib) : Prop :=
  (portListRoutingModeUpdate env list is_set s).1 ≠ .success →
    ∀ q, (portListRoutingModeUpdate env list is_set s).2.port_fwd_mode q = s.port_fwd_mode q

/-- **When a failed update changes nothing**: the modes that it derives for the ports it has
done must be the ones they had. -/
theorem portListAtomic_iff (hnodup : list.Nodup) :
    PortListAtomic env is_set list s ↔ PortListUndone env is_set list s.port_fwd_mode := by
  rcases portsStopAt_or env is_set list s.port_fwd_mode with
    hok | ⟨k, hk, hstop⟩
  · have hdone := portListRoutingModeUpdate_done hnodup hok
    refine iff_of_true (fun hfail => absurd hdone.1 hfail) fun k hk hstop => ?_
    have hget : list[k]? = some list[k] := List.getElem?_eq_getElem hk
    exact absurd (hok k _ hget) (hstop.stop _ hget)
  · obtain ⟨hfail, hbefore, hrest⟩ := portListRoutingModeUpdate_undone hnodup hk hstop
    have hport : ∀ j q, j < k → list[j]? = some q →
        ((portListRoutingModeUpdate env list is_set s).2.port_fwd_mode q = s.port_fwd_mode q ↔
          PortPutBack env is_set j q (s.port_fwd_mode q)) := by
      intro j q hj hq
      rw [hbefore j q hj hq]
      unfold PortPutBack
      by_cases hback : PortDone env (!is_set) true j q
      · simp [hback, eq_comm]
      by_cases hdone : PortDone env is_set false j q
      · simp [hback, hdone, eq_comm]
      · simp [hback, hdone]
    constructor
    · intro hatomic i hi hstopi j q hj hq
      -- there is only one first port that fails
      have hle : i ≤ k := by
        by_contra hlt
        have hget : list[k]? = some list[k] := List.getElem?_eq_getElem hk
        exact hstop.stop _ hget (hstopi.done k _ (by omega) hget)
      exact (hport j q (by omega) hq).mp (hatomic hfail q)
    · intro hundone _ q
      by_cases hq : ∃ j, j < k ∧ list[j]? = some q
      · obtain ⟨j, hj, hjq⟩ := hq
        exact (hport j q hj hjq).mpr (hundone k hk hstop j q hj hjq)
      · exact hrest q fun j hj hjq => hq ⟨j, hj, hjq⟩

theorem portListRoutingModeUpdate_one (p q) :
    (portListRoutingModeUpdate env [p] is_set s).2.port_fwd_mode q =
      if q = p ∧ PortDone env is_set false 0 p then routingMode is_set else s.port_fwd_mode q := by
  have hone := portRoutingModeUpdate_mode env is_set false 0 p s q
  unfold portListRoutingModeUpdate portListUpdateFrom
  generalize portRoutingModeUpdate _ _ 0 _ p s = x at hone ⊢
  obtain ⟨status, t⟩ := x
  simp only at hone ⊢
  by_cases hok : status = .success
  · obtain rfl := hok
    simp only [portListUpdateFrom, if_true]
    exact hone
  split
  next heq => exact absurd (Prod.mk.inj heq).1 hok
  rename_i hne heq
  cases heq
  rw [if_neg (by simpa using hok)]
  exact hone

end Lists

/-! ## The ports of a router interface -/

def rifPorts (lag_ports : Oid → List Oid) (rif : Rif) : List Oid :=
  if rif.type = .vlan ∨ rif.type = .loopback then []
  else if rif.attachment.type = .lag then lag_ports rif.attachment
  else [rif.attachment]

def RifPortsRead (is_set : Bool) (rif : Rif) : Prop :=
  rif.type = .vlan ∨ rif.type = .loopback ∨ rif.attachment.type ≠ .lag ∨
    env.status (.lagPortCountGet rif.attachment is_set) = .success ∧
      (env.lag_ports rif.attachment = [] ∨
        env.status (.lagPortListGet rif.attachment is_set) = .success)

section RifPorts

variable {env : Env} {is_set : Bool} {s : Fib}

variable (env is_set s) in

/-- **The ports of a router interface** are one list that is updated, if it can be read. -/
theorem rifRoutingConfigUpdate_ports {rif} :
    (RifPortsRead env is_set rif ∧ ∃ t, t.port_fwd_mode = s.port_fwd_mode ∧
      rifRoutingConfigUpdate env rif is_set s =
        portListRoutingModeUpdate env (rifPorts env.lag_ports rif) is_set t) ∨
    (¬ RifPortsRead env is_set rif ∧ (rifRoutingConfigUpdate env rif is_set s).1 ≠ .success ∧
      (rifRoutingConfigUpdate env rif is_set s).2.port_fwd_mode = s.port_fwd_mode) := by
  unfold rifRoutingConfigUpdate rifPorts
  by_cases htype : rif.type = .vlan ∨ rif.type = .loopback
  · rw [if_pos htype, if_pos htype]
    exact .inl ⟨htype.elim .inl fun h => .inr (.inl h), s, rfl, rfl⟩
  rw [if_neg htype, if_neg htype]
  obtain ⟨hvlan, hloop⟩ := not_or.mp htype
  by_cases hlag : rif.attachment.type = .lag
  · rw [if_pos hlag, if_pos hlag]
    have hread : RifPortsRead env is_set rif ↔
        env.status (.lagPortCountGet rif.attachment is_set) = .success ∧
          (env.lag_ports rif.attachment = [] ∨
            env.status (.lagPortListGet rif.attachment is_set) = .success) := by
      simp [RifPortsRead, hvlan, hloop, hlag]
    rw [hread]
    by_cases hcount : env.status (.lagPortCountGet rif.attachment is_set) = .success
    · rw [andThen_of_success (x := s.call env _) hcount]
      by_cases hnil : env.lag_ports rif.attachment = []
      · rw [if_pos hnil, hnil]
        exact .inl ⟨⟨hcount, .inl rfl⟩,
          (s.call env (.lagPortCountGet rif.attachment is_set)).2, rfl, rfl⟩
      rw [if_neg hnil]
      by_cases hlist : env.status (.lagPortListGet rif.attachment is_set) = .success
      · rw [andThen_of_success (x := Fib.call env _ _) hlist]
        exact .inl ⟨⟨hcount, .inr hlist⟩, (Fib.call env _ (s.call env _).2).2, rfl, rfl⟩
      · rw [andThen_of_failure (x := Fib.call env _ _) hlist]
        exact .inr ⟨fun h => h.2.elim hnil hlist, hlist, rfl⟩
    · rw [andThen_of_failure (x := s.call env _) hcount]
      exact .inr ⟨fun h => hcount h.1, hcount, rfl⟩
  · rw [if_neg hlag, if_neg hlag]
    exact .inl ⟨.inr (.inr (.inl hlag)), s, rfl, rfl⟩

theorem vrfRifListUpdate_mode (rif) (is_add : Bool) (s) :
    (vrfRifListUpdate rif is_add s).2.port_fwd_mode = s.port_fwd_mode := by
  unfold vrfRifListUpdate
  split <;> rfl

theorem lagRifMappingInsert_mode (env) (lag_id rif_id) (s) :
    (lagRifMappingInsert env lag_id rif_id s).2.port_fwd_mode = s.port_fwd_mode := by
  unfold lagRifMappingInsert saiMapInsert
  split <;> rfl

/-- The request is taken and parsed into `rif`, which has no id yet. -/
def RifRequest (env : Env) (attr_list : List RifAttr) (s : Fib) (rif : Rif) : Prop :=
  RifRequestTaken env attr_list ∧
    rifAttributesParse env attr_list (rifAttributesInit env) s = .ok rif

/-- Taking back the routing mode, after `after`. -/
def RoutingTakenBack (env : Env) (rif : Rif) (after : Oid → PortFwdMode)
    (mode : Oid → PortFwdMode) : Prop :=
  ∃ u, u.port_fwd_mode = after ∧ mode = (rifRoutingConfigUpdate env rif false u).2.port_fwd_mode

variable (env s) in

theorem rifCreateObject_mode (rif_obj_id) (attr_list) :
    ((∀ rif, rifAttributesParse env attr_list (rifAttributesInit env) s ≠ .ok rif) →
      (rifCreateObject env rif_obj_id attr_list s).1.2.port_fwd_mode = s.port_fwd_mode) ∧
    ∀ rif, RifRequest env attr_list s rif →
      ((¬ RoutingConfigurable env rif ∨ RifCreatable env attr_list s rif) →
        (rifCreateObject env rif_obj_id attr_list s).1.2.port_fwd_mode =
          (rifRoutingConfigUpdate env rif true s).2.port_fwd_mode) ∧
      (RoutingConfigurable env rif → ¬ RifCreatable env attr_list s rif →
        RoutingTakenBack env rif (rifRoutingConfigUpdate env rif true s).2.port_fwd_mode
          (rifCreateObject env rif_obj_id attr_list s).1.2.port_fwd_mode) := by
  cases hparse : rifAttributesParse env attr_list (rifAttributesInit env) s with
  | error status =>
    unfold rifCreateObject
    rw [hparse]
    exact ⟨fun _ => rfl, fun rif hrequest => by simp [hrequest.2] at hparse⟩
  | ok rif =>
    refine ⟨fun hno => absurd rfl (hno rif), fun rif' hrequest => ?_⟩
    obtain rfl : rif = rif' := Except.ok.inj (hparse.symm.trans hrequest.2)
    have hdoes := rifCreateObject_does rif_obj_id hparse
    generalize rifCreateObject _ _ _ s = x at hdoes ⊢
    have hmode : (rifListed env rif s).port_fwd_mode =
        (rifRoutingConfigUpdate env rif true s).2.port_fwd_mode := vrfRifListUpdate_mode _ _ _
    cases hdoes with
    | unrouted hconfig hrc => exact ⟨fun _ => rfl, fun hready => absurd hready hconfig⟩
    | refused hconfig hnpu =>
      refine ⟨fun h => ?_, fun _ _ =>
        ⟨((rifRoutingConfigUpdate env rif true s).2.call env (.rifCreate rif)).2, rfl, rfl⟩⟩
      rcases h with hnot | hc
      · exact absurd hconfig hnot
      · exact absurd hc.npu hnpu
    | unlisted hconfig hfull =>
      refine ⟨fun h => ?_, fun _ _ => ⟨_, ?_, rfl⟩⟩
      · rcases h with hnot | hc
        · exact absurd hconfig hnot
        · exact absurd ⟨hc.new, hc.tree⟩ hfull
      · exact (vrfRifListUpdate_mode _ _ _).trans hmode
    | made hconfig hnpu hnew htree =>
      exact ⟨fun _ => hmode, fun _ hnot => absurd
        ⟨hrequest.1, hrequest.2, hconfig, hnpu, hnew, htree⟩ hnot⟩

variable (env s) in

/-- **Create**: the ports are put into routing mode, and taken back when that succeeds and the
router interface is not made. -/
theorem routerInterfaceCreate_mode {rif_obj_id} :
    ((∀ rif, ¬ RifRequest env attr_list s rif) →
      (routerInterfaceCreate env rif_obj_id attr_list s).1.2.port_fwd_mode = s.port_fwd_mode) ∧
    ∀ rif, RifRequest env attr_list s rif →
      ((¬ RoutingConfigurable env rif ∨ RifCreatable env attr_list s rif) →
        (routerInterfaceCreate env rif_obj_id attr_list s).1.2.port_fwd_mode =
          (rifRoutingConfigUpdate env rif true s).2.port_fwd_mode) ∧
      (RoutingConfigurable env rif → ¬ RifCreatable env attr_list s rif →
        RoutingTakenBack env rif (rifRoutingConfigUpdate env rif true s).2.port_fwd_mode
          (routerInterfaceCreate env rif_obj_id attr_list s).1.2.port_fwd_mode) := by
  by_cases htaken : RifRequestTaken env attr_list
  · have hobject := rifCreateObject_mode env s rif_obj_id attr_list
    have hmode : (routerInterfaceCreate env rif_obj_id attr_list s).1.2.port_fwd_mode =
        (rifCreateObject env rif_obj_id attr_list s).1.2.port_fwd_mode := by
      obtain ⟨hmin, hmax, hnode⟩ := htaken
      unfold routerInterfaceCreate
      rw [if_neg (by omega), if_neg (by simp [hnode])]
      simp only
      split
      · rfl
      · exact lagRifMappingInsert_mode env _ _ _
    rw [hmode]
    exact ⟨fun hno => hobject.1 fun rif hparse => hno rif ⟨htaken, hparse⟩, hobject.2⟩
  · refine ⟨fun _ => ?_, fun rif hrequest => absurd hrequest.1 htaken⟩
    unfold routerInterfaceCreate
    by_cases hcount : attr_list.length < fibRifMandatoryAttrCount ∨
        fibRifMaxAttrCount < attr_list.length
    · rw [if_pos hcount]
    · rw [if_neg hcount, if_pos]
      by_contra hnode
      rw [not_or] at hcount
      exact htaken ⟨by omega, by omega, by simpa using hnode⟩

/-- The remove call takes the router interface `rif` out. -/
structure RifRemovable (env : Env) (rif_id : Oid) (s : Fib) (rif : Rif) : Prop where
  typed : rif_id.type = .routerInterface
  there : s.rif rif_id = some rif
  unused : rif.ref_count = 0
  npu : env.status (.rifRemove rif) = .success

variable (env s) in

theorem routerInterfaceRemove_mode :
    (∃ rif, RifRemovable env rif_id s rif ∧
      (routerInterfaceRemove env rif_id s).2.router_interface_tree =
        s.router_interface_tree.filter (fun r => r.rif_id ≠ rif_id) ∧
      RoutingTakenBack env rif s.port_fwd_mode
        (routerInterfaceRemove env rif_id s).2.port_fwd_mode) ∨
    ((∀ rif, ¬ RifRemovable env rif_id s rif) ∧
      (routerInterfaceRemove env rif_id s).2.router_interface_tree = s.router_interface_tree ∧
      (routerInterfaceRemove env rif_id s).2.port_fwd_mode = s.port_fwd_mode) := by
  unfold routerInterfaceRemove
  split
  next htype => exact .inr ⟨fun rif h => htype h.typed, rfl, rfl⟩
  rename_i htype
  split
  next hnone =>
    refine .inr ⟨fun rif h => ?_, rfl, rfl⟩
    rw [h.there] at hnone
    simp at hnone
  rename_i rif hrif
  have hid : rif.rif_id = rif_id := by simpa using List.find?_some hrif
  have hsame : ∀ rif', RifRemovable env rif_id s rif' → rif' = rif := fun rif' h =>
    Option.some.inj (h.there.symm.trans hrif)
  unfold rifRemoveNode
  by_cases href : rif.ref_count = 0
  · rw [if_neg (by simpa using href)]
    by_cases hnpu : env.status (.rifRemove rif) = .success
    · rw [andThen_of_success (x := s.call env _) hnpu]
      refine .inl ⟨rif, ⟨by simpa using htype, hrif, href, hnpu⟩, ?_⟩
      have hlist := vrfRifListUpdate_rifFrame rif false (s.call env (.rifRemove rif)).2
      have hmode := vrfRifListUpdate_mode rif false (s.call env (.rifRemove rif)).2
      simp only
      generalize (vrfRifListUpdate _ _ _).2 = t at hlist hmode ⊢
      have hconfig := rifRoutingConfigUpdate_rifFrame env rif false (rifTreeRemove rif.rif_id t)
      have htree : (rifRoutingConfigUpdate env rif false
          (rifTreeRemove rif.rif_id t)).2.router_interface_tree =
          s.router_interface_tree.filter (fun r => r.rif_id ≠ rif_id) := by
        rw [hconfig.rifs]
        show t.router_interface_tree.filter _ = _
        rw [hlist.rifs, hid]
        rfl
      rw [andThen_of_success rfl]
      simp only
      split
      · exact ⟨htree, rifTreeRemove rif.rif_id t, hmode, rfl⟩
      · exact ⟨htree, rifTreeRemove rif.rif_id t, hmode, rfl⟩
    · rw [andThen_of_failure (x := s.call env _) hnpu, andThen_of_failure hnpu]
      refine .inr ⟨fun rif' h => hnpu ?_, rfl, rfl⟩
      rw [← hsame rif' h]
      exact h.npu
  · rw [if_pos href, andThen_of_failure (by simp)]
    refine .inr ⟨fun rif' h => href ?_, rfl, rfl⟩
    rw [← hsame rif' h]
    exact h.unused

end RifPorts

/-! ## LAG members -/

/-- The change of the ports of the LAG is told to a router interface, and the NPU takes it. -/
def MemberTold (lag_id port_id : Oid) (is_add : Bool) (s : Fib) : Prop :=
  ∃ id rif, getRifIdFromLagId lag_id s = some id ∧ id ≠ .null ∧ s.rif id = some rif ∧
    rif.attachment = lag_id ∧
    env.status (.rifLagMemberUpdate rif [port_id] is_add) = .success

def MemberDone (lag_id port_id : Oid) (is_add : Bool) (s : Fib) : Prop :=
  MemberTold env lag_id port_id is_add s ∧ PortDone env is_add false 0 port_id

open Classical in
theorem rifLagCallback_mode (lag_id p) (is_add : Bool) (s) :
    RifFrame s (rifLagCallback env lag_id [p] is_add s).2 ∧
      ∀ q, (rifLagCallback env lag_id [p] is_add s).2.port_fwd_mode q =
        if q = p ∧ MemberDone env lag_id p is_add s then routingMode is_add
        else s.port_fwd_mode q := by
  have hno : ¬ MemberTold env lag_id p is_add s → ∀ q, s.port_fwd_mode q =
      if q = p ∧ MemberDone env lag_id p is_add s then routingMode is_add
      else s.port_fwd_mode q := fun hnot q => by rw [if_neg fun h => hnot h.2.1]
  unfold rifLagCallback
  cases hid : getRifIdFromLagId lag_id s with
  | none =>
    refine ⟨.refl s, hno ?_⟩
    rintro ⟨id, rif, hget, -⟩
    rw [hid] at hget
    simp at hget
  | some id =>
    dsimp only
    by_cases hnull : id = .null
    · rw [if_pos hnull]
      refine ⟨.refl s, hno ?_⟩
      rintro ⟨id', rif, hget, hne, -⟩
      exact hne (Option.some.inj (hget.symm.trans hid) ▸ hnull)
    rw [if_neg hnull]
    unfold rifLagMemberUpdate
    rw [if_neg (by simp)]
    cases hrif : s.rif id with
    | none =>
      refine ⟨.refl s, hno ?_⟩
      rintro ⟨id', rif, hget, -, hthere, -⟩
      rw [Option.some.inj (hget.symm.trans hid), hrif] at hthere
      simp at hthere
    | some rif =>
      have htold : MemberTold env lag_id p is_add s ↔ rif.attachment = lag_id ∧
          env.status (.rifLagMemberUpdate rif [p] is_add) = .success := by
        constructor
        · rintro ⟨id', rif', hget, -, hthere, hon⟩
          rw [Option.some.inj (hget.symm.trans hid), hrif] at hthere
          rw [Option.some.inj hthere]
          exact hon
        · exact fun hon => ⟨id, rif, hid, hnull, hrif, hon⟩
      dsimp only
      by_cases hon : rif.attachment = lag_id
      · rw [if_neg (by simpa using hon)]
        have hcall := RifFrame.call env (.rifLagMemberUpdate rif [p] is_add) s
        by_cases hnpu : env.status (.rifLagMemberUpdate rif [p] is_add) = .success
        · rw [andThen_of_success (x := s.call env _) hnpu]
          refine ⟨hcall.trans (portListRoutingModeUpdate_writes env [p] _ _).rifFrame, fun q => ?_⟩
          rw [portListRoutingModeUpdate_one]
          by_cases hq : q = p ∧ PortDone env is_add false 0 p
          · rw [if_pos hq, if_pos ⟨hq.1, htold.mpr ⟨hon, hnpu⟩, hq.2⟩]
          · rw [if_neg hq, if_neg fun h => hq ⟨h.1, h.2.2⟩]
            rfl
        · rw [andThen_of_failure (x := s.call env _) hnpu]
          exact ⟨hcall, hno fun h => hnpu (htold.mp h).2⟩
      · rw [if_pos hon]
        exact ⟨.refl s, hno fun h => hon (htold.mp h).1⟩

/-! ## The system -/

structure PortSys where
  fib : Fib
  lag_members : List (Oid × Oid)

/-- `sai_lag_port_list_get` -/
def PortSys.lagPorts (σ : PortSys) (lag_id : Oid) : List Oid :=
  (σ.lag_members.filter fun m => m.1 = lag_id).map Prod.snd

def PortSys.outside (σ : PortSys) (env : Env) : Env := { env with lag_ports := σ.lagPorts }

inductive PortOp where
  | routerInterfaceCreate (rif_obj_id : Oid) (attr_list : List RifAttr)
  | routerInterfaceRemove (rif_id : Oid)
  | lagMemberCreate (lag_id port_id : Oid)
  | lagMemberRemove (lag_id port_id : Oid)

structure PortCall where
  env : Env
  op : PortOp

/-- `sai_l2_create_lag_member`, once it has added the port: a port is in one LAG at most. -/
def lagMemberCreate (lag_id port_id : Oid) (σ : PortSys) : PortSys :=
  if port_id ∈ σ.lag_members.map Prod.snd then σ
  else
    let τ := { σ with lag_members := σ.lag_members ++ [(lag_id, port_id)] }
    { τ with fib := (rifLagCallback (τ.outside env) lag_id [port_id] true σ.fib).2 }

/-- `sai_l2_remove_lag_member` -/
def lagMemberRemove (lag_id port_id : Oid) (σ : PortSys) : PortSys :=
  if (lag_id, port_id) ∉ σ.lag_members then σ
  else
    let τ := { σ with lag_members := σ.lag_members.filter fun m => m ≠ (lag_id, port_id) }
    { τ with fib := (rifLagCallback (τ.outside env) lag_id [port_id] false σ.fib).2 }

def portStep (c : PortCall) (σ : PortSys) : PortSys :=
  match c.op with
  | .routerInterfaceCreate rif_obj_id attr_list =>
    { σ with fib := (routerInterfaceCreate (σ.outside c.env) rif_obj_id attr_list σ.fib).1.2 }
  | .routerInterfaceRemove rif_id =>
    { σ with fib := (routerInterfaceRemove (σ.outside c.env) rif_id σ.fib).2 }
  | .lagMemberCreate lag_id port_id => lagMemberCreate c.env lag_id port_id σ
  | .lagMemberRemove lag_id port_id => lagMemberRemove c.env lag_id port_id σ

/-- The router interface is attached to the port, or to a LAG that the port is a member of. -/
def Rif.RoutesPort (rif : Rif) (lag_members : List (Oid × Oid)) (port_id : Oid) : Prop :=
  rif.type ≠ .vlan ∧ rif.type ≠ .loopback ∧
    (rif.attachment.type ≠ .lag ∧ rif.attachment = port_id ∨
      rif.attachment.type = .lag ∧ (rif.attachment, port_id) ∈ lag_members)

variable {rif : Rif}

instance (rif : Rif) (lag_members : List (Oid × Oid)) (port_id : Oid) :
    Decidable (rif.RoutesPort lag_members port_id) :=
  inferInstanceAs (Decidable (_ ∧ _))

/-- The ports that are in routing mode are those that a router interface uses. -/
structure PortModes (σ : PortSys) : Prop where
  ids : (σ.fib.router_interface_tree.map Rif.rif_id).Nodup
  oneLag : (σ.lag_members.map Prod.snd).Nodup
  mode : ∀ p, σ.fib.port_fwd_mode p = .routing ↔
    ∃ rif ∈ σ.fib.router_interface_tree, rif.RoutesPort σ.lag_members p

section System

variable {env : Env}

theorem PortSys.mem_lagPorts (lag_id p) :
    p ∈ σ.lagPorts lag_id ↔ (lag_id, p) ∈ σ.lag_members := by
  unfold PortSys.lagPorts
  rw [List.mem_map]
  constructor
  · rintro ⟨⟨lag, q⟩, hm, rfl⟩
    obtain ⟨hmem, hlag⟩ := List.mem_filter.mp hm
    obtain rfl : lag = lag_id := by simpa using hlag
    exact hmem
  · intro hmem
    exact ⟨(lag_id, p), List.mem_filter.mpr ⟨hmem, by simp⟩, rfl⟩

theorem PortSys.mem_rifPorts {p} :
    p ∈ rifPorts σ.lagPorts rif ↔ rif.RoutesPort σ.lag_members p := by
  unfold rifPorts Rif.RoutesPort
  by_cases htype : rif.type = .vlan ∨ rif.type = .loopback
  · rw [if_pos htype]
    refine iff_of_false List.not_mem_nil fun h => ?_
    exact htype.elim h.1 h.2.1
  obtain ⟨hvlan, hloop⟩ := not_or.mp htype
  rw [if_neg htype]
  by_cases hlag : rif.attachment.type = .lag
  · rw [if_pos hlag, PortSys.mem_lagPorts]
    simp [hvlan, hloop, hlag]
  · rw [if_neg hlag, List.mem_singleton]
    simp [hvlan, hloop, hlag, eq_comm]

theorem PortModes.rifPorts_nodup (h : PortModes σ) (rif) :
    (rifPorts σ.lagPorts rif).Nodup := by
  unfold rifPorts
  split
  · exact List.nodup_nil
  split
  · exact h.oneLag.sublist (List.filter_sublist.map Prod.snd)
  · exact List.nodup_singleton _

/-- The condition on a create call: a list that fails is put back; when the router interface is
made, its ports are in routing mode already or can be written; and when it is not, after all,
its ports were not in routing mode and the reset goes through. -/
structure RifCreatePorts (env : Env) (attr_list : List RifAttr) (s : Fib) : Prop where
  undone : ∀ rif, RifRequest env attr_list s rif → RifPortsRead env true rif →
    PortListUndone env true (rifPorts env.lag_ports rif) s.port_fwd_mode
  made : ∀ rif, RifCreatable env attr_list s rif →
    ∀ (j : Nat) q, (rifPorts env.lag_ports rif)[j]? = some q →
      s.port_fwd_mode q = .routing ∨ PortDone env true false j q
  takenBack : ∀ rif, RifRequest env attr_list s rif → RoutingConfigurable env rif →
    ¬ RifCreatable env attr_list s rif → RifPortsRead env false rif ∧
      ∀ (j : Nat) q, (rifPorts env.lag_ports rif)[j]? = some q → s.port_fwd_mode q ≠ .routing ∧
        PortOk env false false j q
          (if PortDone env true false j q then .routing else s.port_fwd_mode q)

/-- The condition on a remove call: the reset goes through, and no port of the router interface
is used by another one. -/
def RifRemovePorts (env : Env) (rif_id : Oid) (s : Fib) : Prop :=
  ∀ rif, RifRemovable env rif_id s rif → RifPortsRead env false rif ∧
    ∀ (j : Nat) q, (rifPorts env.lag_ports rif)[j]? = some q → PortDone env false false j q ∧
      ∀ other ∈ s.router_interface_tree, q ∈ rifPorts env.lag_ports other → other.rif_id = rif_id

def LagRouted (lag_id : Oid) (s : Fib) : Prop :=
  ∃ rif ∈ s.router_interface_tree, rif.type ≠ .vlan ∧ rif.type ≠ .loopback ∧
    rif.attachment.type = .lag ∧ rif.attachment = lag_id

def PortRouted (port_id : Oid) (s : Fib) : Prop :=
  ∃ rif ∈ s.router_interface_tree, rif.type ≠ .vlan ∧ rif.type ≠ .loopback ∧
    rif.attachment.type ≠ .lag ∧ rif.attachment = port_id

inductive PortCallOk : PortCall → PortSys → Prop where
  | create {env : Env} {rif_obj_id : Oid} {attr_list : List RifAttr} {σ : PortSys}
      (hclean : RifCreatePorts (σ.outside env) attr_list σ.fib) :
      PortCallOk ⟨env, .routerInterfaceCreate rif_obj_id attr_list⟩ σ
  | remove {env : Env} {rif_id : Oid} {σ : PortSys}
      (hclean : RifRemovePorts (σ.outside env) rif_id σ.fib) :
      PortCallOk ⟨env, .routerInterfaceRemove rif_id⟩ σ
  | memberCreate {env : Env} {lag_id port_id : Oid} {σ : PortSys}
      (hclean : port_id ∉ σ.lag_members.map Prod.snd → σ.fib.port_fwd_mode port_id = .routing ∨
        (MemberDone env lag_id port_id true σ.fib ↔ LagRouted lag_id σ.fib)) :
      PortCallOk ⟨env, .lagMemberCreate lag_id port_id⟩ σ
  | memberRemove {env : Env} {lag_id port_id : Oid} {σ : PortSys}
      (hclean : (lag_id, port_id) ∈ σ.lag_members → LagRouted lag_id σ.fib ∨
          MemberDone env lag_id port_id false σ.fib →
        (MemberDone env lag_id port_id false σ.fib ↔ ¬ PortRouted port_id σ.fib)) :
      PortCallOk ⟨env, .lagMemberRemove lag_id port_id⟩ σ

namespace PortModes

/-- Only the modes and the tree matter. -/
theorem of_same {s} (h : PortModes σ)
    (htree : s.router_interface_tree = σ.fib.router_interface_tree)
    (hmode : ∀ p, s.port_fwd_mode p = .routing ↔ σ.fib.port_fwd_mode p = .routing) :
    PortModes { σ with fib := s } := by
  refine ⟨?_, h.oneLag, fun p => ?_⟩
  · show (s.router_interface_tree.map Rif.rif_id).Nodup
    rw [htree]
    exact h.ids
  · show s.port_fwd_mode p = .routing ↔ ∃ rif ∈ s.router_interface_tree, _
    rw [htree, hmode p]
    exact h.mode p

variable (env) in

theorem setPorts (h : PortModes σ) :
    let t := (rifRoutingConfigUpdate (σ.outside env) rif true σ.fib).2
    (¬ RoutingConfigurable (σ.outside env) rif ∧
      ((RifPortsRead (σ.outside env) true rif → PortListUndone (σ.outside env) true
        (rifPorts σ.lagPorts rif) σ.fib.port_fwd_mode) → ∀ q, t.port_fwd_mode q = σ.fib.port_fwd_mode q)) ∨
    (RoutingConfigurable (σ.outside env) rif ∧
      (∀ (j : Nat) q, (rifPorts σ.lagPorts rif)[j]? = some q → t.port_fwd_mode q =
        if PortDone env true false j q then .routing else σ.fib.port_fwd_mode q) ∧
      ∀ q, q ∉ rifPorts σ.lagPorts rif → t.port_fwd_mode q = σ.fib.port_fwd_mode q) := by
  intro t
  have hstatus := rifRoutingConfigUpdate_set_status (σ.outside env) rif σ.fib
  rcases rifRoutingConfigUpdate_ports _ _ _ with
    ⟨hread, u, hu, heq⟩ | ⟨hunread, hfail, hmode⟩
  · have ht : t = (portListRoutingModeUpdate (σ.outside env) (rifPorts σ.lagPorts rif) true u).2 :=
      congrArg Prod.snd heq
    rw [heq] at hstatus
    rw [ht]
    have hnodup := h.rifPorts_nodup rif
    rcases portsStopAt_or _ _ _ _ with
      hok | ⟨k, hk, hstop⟩
    · obtain ⟨hdone, hports, hrest⟩ := portListRoutingModeUpdate_done hnodup hok
      rw [hu] at hports hrest
      exact .inr ⟨hstatus.mp hdone, hports, hrest⟩
    · obtain ⟨hfail, -, -⟩ := portListRoutingModeUpdate_undone hnodup hk hstop
      refine .inl ⟨fun hready => hfail (hstatus.mpr hready), fun hundone q => ?_⟩
      have hatomic : PortListAtomic (σ.outside env) true (rifPorts σ.lagPorts rif) u := by
        rw [portListAtomic_iff hnodup, hu]
        exact hundone hread
      rw [hatomic hfail q, hu]
  · refine .inl ⟨fun hready => hfail (hstatus.mpr hready), fun _ q => ?_⟩
    exact congrFun hmode q

theorem resetPorts (h : PortModes σ) {after mode : Oid → PortFwdMode}
    (hback : RoutingTakenBack (σ.outside env) rif after mode)
    (hread : RifPortsRead (σ.outside env) false rif)
    (hok : ∀ (j : Nat) q, (rifPorts σ.lagPorts rif)[j]? = some q →
      PortOk env false false j q (after q)) :
    (∀ q ∈ rifPorts σ.lagPorts rif, mode q ≠ .routing) ∧
      ∀ q, q ∉ rifPorts σ.lagPorts rif → mode q = after q := by
  obtain ⟨u, rfl, rfl⟩ := hback
  rcases rifRoutingConfigUpdate_ports _ _ u with
    ⟨-, t, ht, heq⟩ | ⟨hunread, -⟩
  · have hu : (rifRoutingConfigUpdate (σ.outside env) rif false u).2 =
        (portListRoutingModeUpdate (σ.outside env) (rifPorts σ.lagPorts rif) false t).2 :=
      congrArg Prod.snd heq
    rw [hu]
    rw [← ht] at hok
    obtain ⟨-, hports, hrest⟩ := portListRoutingModeUpdate_done (s := t) (h.rifPorts_nodup rif)
      (show ∀ (j : Nat) q, (rifPorts σ.lagPorts rif)[j]? = some q →
        PortOk (σ.outside env) false false j q (t.port_fwd_mode q) from hok)
    refine ⟨fun q hq => ?_, fun q hq => ?_⟩
    · obtain ⟨j, hj⟩ := List.mem_iff_getElem?.mp hq
      rw [hports j q hj]
      by_cases hdone : PortDone (σ.outside env) false false j q
      · rw [if_pos hdone]
        simp [routingMode]
      rw [if_neg hdone]
      rcases (hok j q hj).2 with hset | hnone | hset
      · simp at hset
      · rw [hnone]
        simp
      · exact absurd hset hdone
    · rw [hrest q hq, ht]
  · exact absurd hread hunread

theorem create (h : PortModes σ) (rif_obj_id)
    (hclean : RifCreatePorts (σ.outside env) attr_list σ.fib) :
    PortModes { σ with
      fib := (routerInterfaceCreate (σ.outside env) rif_obj_id attr_list σ.fib).1.2 } := by
  obtain ⟨rif_id, htree, -⟩ := routerInterfaceCreate_cases (σ.outside env) (s := σ.fib) rif_obj_id
    attr_list
  obtain ⟨hnone, hsome⟩ := routerInterfaceCreate_mode _ _
  generalize (routerInterfaceCreate _ _ _ _).1.2 = t at htree hnone hsome ⊢
  by_cases hrequest : ∃ rif, RifRequest (σ.outside env) attr_list σ.fib rif
  · obtain ⟨rif, hrequest⟩ := hrequest
    obtain ⟨hset, hback⟩ := hsome rif hrequest
    have hsame : ∀ rif', RifCreatable (σ.outside env) attr_list σ.fib rif' → rif' = rif :=
      fun rif' hc => Except.ok.inj (hc.parse.symm.trans hrequest.2)
    rcases h.setPorts env with ⟨hnot, hmodes⟩ | ⟨hready, hports, hrest⟩
    · -- the ports are not set
      have hno : ∀ rif', ¬ RifCreatable (σ.outside env) attr_list σ.fib rif' := fun rif' hc => by
        rw [hsame rif' hc] at hc
        exact hnot hc.config
      refine h.of_same ?_ fun p => ?_
      · rcases htree with ⟨rif', hc, -⟩ | ⟨-, -, htree⟩
        · exact absurd hc (hno rif')
        · exact htree
      · rw [hset (.inl hnot), hmodes (hclean.undone rif hrequest)]
    · rcases htree with ⟨rif', hc, -, htree, hid⟩ | ⟨hno, -, htree⟩
      · -- the router interface is made
        obtain rfl := hsame rif' hc
        rw [← hset (.inr hc)] at hports hrest
        refine ⟨?_, h.oneLag, fun p => ?_⟩
        · show (t.router_interface_tree.map Rif.rif_id).Nodup
          rw [htree, List.map_append, List.map_cons, List.map_nil, ← List.concat_eq_append]
          refine List.Nodup.concat (fun hmem => ?_) h.ids
          obtain ⟨r, hr, hrid⟩ := List.mem_map.mp hmem
          exact rif_eq_none hc.new r hr (hrid.trans hid)
        · show t.port_fwd_mode p = .routing ↔ ∃ r ∈ t.router_interface_tree, _
          rw [htree]
          simp only [List.mem_append, List.mem_singleton, or_and_right, exists_or, exists_eq_left]
          rw [← h.mode p]
          have huses : Rif.RoutesPort { rif' with rif_id := rif_id } σ.lag_members p ↔
              p ∈ rifPorts σ.lagPorts rif' := PortSys.mem_rifPorts.symm
          rw [huses]
          by_cases hp : p ∈ rifPorts σ.lagPorts rif'
          · obtain ⟨j, hj⟩ := List.mem_iff_getElem?.mp hp
            refine iff_of_true ?_ (.inr hp)
            rw [hports j p hj]
            split
            · rfl
            next hundone => exact (hclean.made _ hc j p hj).resolve_right hundone
          · rw [hrest p hp]
            simp [hp]
      · -- the ports are taken back
        obtain ⟨hread, hclean⟩ := hclean.takenBack rif hrequest hready (hno rif)
        have hreset := h.resetPorts (hback hready (hno rif)) hread
          fun j q hj => by
            rw [hports j q hj]
            exact (hclean j q hj).2
        refine h.of_same htree fun p => ?_
        by_cases hp : p ∈ rifPorts σ.lagPorts rif
        · obtain ⟨j, hj⟩ := List.mem_iff_getElem?.mp hp
          exact iff_of_false (hreset.1 p hp) (hclean j p hj).1
        · rw [hreset.2 p hp, hrest p hp]
  · have hno : ∀ rif, ¬ RifRequest (σ.outside env) attr_list σ.fib rif := fun rif hr =>
      hrequest ⟨rif, hr⟩
    refine h.of_same ?_ fun p => by rw [hnone hno]
    rcases htree with ⟨rif, hc, -⟩ | ⟨-, -, htree⟩
    · exact absurd ⟨hc.taken, hc.parse⟩ (hno rif)
    · exact htree

theorem remove (h : PortModes σ) (hclean : RifRemovePorts (σ.outside env) rif_id σ.fib) :
    PortModes { σ with fib := (routerInterfaceRemove (σ.outside env) rif_id σ.fib).2 } := by
  rcases routerInterfaceRemove_mode _ _ with
    ⟨rif, hremovable, htree, hback⟩ | ⟨-, htree, hmode⟩
  · obtain ⟨hread, hclean⟩ := hclean rif hremovable
    have hmem : rif ∈ σ.fib.router_interface_tree := List.mem_of_find?_eq_some hremovable.there
    have hid : rif.rif_id = rif_id := by simpa using List.find?_some hremovable.there
    obtain ⟨hports, hrest⟩ := h.resetPorts hback hread fun j q hj =>
      ⟨(hclean j q hj).1.1, .inr (.inr (hclean j q hj).1)⟩
    generalize (routerInterfaceRemove _ _ _).2 = t at htree hports hrest ⊢
    refine ⟨?_, h.oneLag, fun p => ?_⟩
    · show (t.router_interface_tree.map Rif.rif_id).Nodup
      rw [htree]
      exact h.ids.sublist (List.filter_sublist.map Rif.rif_id)
    · show t.port_fwd_mode p = .routing ↔ ∃ r ∈ t.router_interface_tree, _
      by_cases hp : p ∈ rifPorts σ.lagPorts rif
      · -- nothing else uses the port
        refine iff_of_false (hports p hp) ?_
        rintro ⟨other, hother, huses⟩
        rw [htree] at hother
        obtain ⟨hin, hne⟩ := List.mem_filter.mp hother
        obtain ⟨j, hj⟩ := List.mem_iff_getElem?.mp hp
        exact absurd ((hclean j p hj).2 other hin (PortSys.mem_rifPorts.mpr huses))
          (by simpa using hne)
      · rw [hrest p hp, h.mode p, htree]
        constructor
        · rintro ⟨other, hother, huses⟩
          refine ⟨other, List.mem_filter.mpr ⟨hother, ?_⟩, huses⟩
          have hne : other.rif_id ≠ rif_id := by
            intro hsame
            rw [List.inj_on_of_nodup_map h.ids hother hmem (hsame.trans hid.symm)] at huses
            exact hp (PortSys.mem_rifPorts.mpr huses)
          simpa using hne
        · rintro ⟨other, hother, huses⟩
          exact ⟨other, (List.mem_filter.mp hother).1, huses⟩
  · exact h.of_same htree fun p => by rw [hmode]

theorem routed_iff (lag_members : List (Oid × Oid)) (s) (p) :
    (∃ rif ∈ s.router_interface_tree, rif.RoutesPort lag_members p) ↔
      PortRouted p s ∨ ∃ lag_id, (lag_id, p) ∈ lag_members ∧ LagRouted lag_id s := by
  constructor
  · rintro ⟨rif, hrif, hvlan, hloop, ⟨hport, rfl⟩ | ⟨hlag, hmem⟩⟩
    · exact .inl ⟨rif, hrif, hvlan, hloop, hport, rfl⟩
    · exact .inr ⟨_, hmem, rif, hrif, hvlan, hloop, hlag, rfl⟩
  · rintro (⟨rif, hrif, hvlan, hloop, hport, rfl⟩ | ⟨_, hmem, rif, hrif, hvlan, hloop, hlag, rfl⟩)
    · exact ⟨rif, hrif, hvlan, hloop, .inl ⟨hport, rfl⟩⟩
    · exact ⟨rif, hrif, hvlan, hloop, .inr ⟨hlag, hmem⟩⟩

theorem memberCreate (h : PortModes σ)
    (hclean : port_id ∉ σ.lag_members.map Prod.snd → σ.fib.port_fwd_mode port_id = .routing ∨
      (MemberDone env lag_id port_id true σ.fib ↔ LagRouted lag_id σ.fib)) :
    PortModes (lagMemberCreate env lag_id port_id σ) := by
  unfold lagMemberCreate
  split
  · exact h
  rename_i hnew
  obtain ⟨hframe, hmode⟩ := rifLagCallback_mode _ _ _ _ _
  dsimp only
  generalize (rifLagCallback _ _ _ _ _).2 = t at hframe hmode ⊢
  refine ⟨?_, ?_, fun p => ?_⟩
  · show (t.router_interface_tree.map Rif.rif_id).Nodup
    rw [hframe.rifs]
    exact h.ids
  · show ((σ.lag_members ++ [(lag_id, port_id)]).map Prod.snd).Nodup
    rw [List.map_append, List.map_cons, List.map_nil, ← List.concat_eq_append]
    exact List.Nodup.concat hnew h.oneLag
  · show t.port_fwd_mode p = .routing ↔ ∃ rif ∈ t.router_interface_tree, _
    rw [hmode p, hframe.rifs, routed_iff]
    have hold := h.mode p
    rw [routed_iff] at hold
    by_cases hp : p = port_id
    · obtain rfl := hp
      have hnone : ∀ lag, (lag, p) ∉ σ.lag_members := fun lag hm =>
        hnew (List.mem_map.mpr ⟨_, hm, rfl⟩)
      have hlags : (∃ lag, (lag, p) ∈ σ.lag_members ++ [(lag_id, p)] ∧ LagRouted lag σ.fib) ↔
          LagRouted lag_id σ.fib := by
        simp [hnone]
      have hbefore : σ.fib.port_fwd_mode p = .routing ↔ PortRouted p σ.fib := by
        rw [hold]
        simp [hnone]
      rw [hlags]
      split
      next hd =>
        have hd : MemberDone env lag_id p true σ.fib := hd.2
        refine iff_of_true rfl ?_
        rcases hclean hnew with hrouting | hiff
        · exact .inl (hbefore.mp hrouting)
        · exact .inr (hiff.mp hd)
      rename_i hd
      have hd : ¬ MemberDone env lag_id p true σ.fib := fun hdone => hd ⟨rfl, hdone⟩
      rw [hbefore]
      refine ⟨.inl, fun hor => hor.elim id fun hlag => ?_⟩
      rcases hclean hnew with hrouting | hiff
      · exact hbefore.mp hrouting
      · exact absurd (hiff.mpr hlag) hd
    · rw [if_neg fun hd => hp hd.1, hold]
      simp [hp]

theorem memberRemove (h : PortModes σ)
    (hclean : (lag_id, port_id) ∈ σ.lag_members → LagRouted lag_id σ.fib ∨
        MemberDone env lag_id port_id false σ.fib →
      (MemberDone env lag_id port_id false σ.fib ↔ ¬ PortRouted port_id σ.fib)) :
    PortModes (lagMemberRemove env lag_id port_id σ) := by
  unfold lagMemberRemove
  by_cases hmember : (lag_id, port_id) ∈ σ.lag_members
  · rw [if_neg (by simpa using hmember)]
    have hclean := hclean hmember
    obtain ⟨hframe, hmode⟩ := rifLagCallback_mode _ _
      _ _ _
    dsimp only
    generalize (rifLagCallback _ _ _ _ _).2 = t at hframe hmode ⊢
    refine ⟨?_, h.oneLag.sublist (List.filter_sublist.map Prod.snd), fun p => ?_⟩
    · show (t.router_interface_tree.map Rif.rif_id).Nodup
      rw [hframe.rifs]
      exact h.ids
    · show t.port_fwd_mode p = .routing ↔ ∃ rif ∈ t.router_interface_tree, _
      rw [hmode p, hframe.rifs, routed_iff]
      have hold := h.mode p
      rw [routed_iff] at hold
      by_cases hp : p = port_id
      · obtain rfl := hp
        have honly : ∀ lag, (lag, p) ∈ σ.lag_members → lag = lag_id := fun lag hm =>
          congrArg Prod.fst (List.inj_on_of_nodup_map h.oneLag hm hmember rfl)
        have hlags : ¬ ∃ lag, (lag, p) ∈ σ.lag_members.filter (fun m => m ≠ (lag_id, p)) ∧
            LagRouted lag σ.fib := by
          rintro ⟨lag, hm, -⟩
          obtain ⟨hm, hne⟩ := List.mem_filter.mp hm
          rw [honly lag hm] at hne
          simp at hne
        have hbefore : σ.fib.port_fwd_mode p = .routing ↔
            PortRouted p σ.fib ∨ LagRouted lag_id σ.fib := by
          rw [hold]
          refine or_congr_right ⟨?_, fun hlag => ⟨lag_id, hmember, hlag⟩⟩
          rintro ⟨lag, hm, hlag⟩
          rwa [honly lag hm] at hlag
        split
        next hd =>
          have hd : MemberDone env lag_id p false σ.fib := hd.2
          refine iff_of_false (by simp [routingMode]) fun hor => ?_
          exact hor.elim ((hclean (.inr hd)).mp hd) hlags
        rename_i hd
        have hd : ¬ MemberDone env lag_id p false σ.fib := fun hdone => hd ⟨rfl, hdone⟩
        rw [hbefore]
        constructor
        · rintro (hport | hlag)
          · exact .inl hport
          · by_contra hno
            exact hd ((hclean (.inl hlag)).mpr fun hport => hno (.inl hport))
        · rintro (hport | hlag)
          · exact .inl hport
          · exact absurd hlag hlags
      · rw [if_neg fun hd => hp hd.1, hold]
        simp [hp]
  · rw [if_pos (by simpa using hmember)]
    exact h

theorem step {c} (h : PortModes σ) (hc : PortCallOk c σ) : PortModes (portStep c σ) := by
  cases hc with
  | create hclean => exact h.create _ hclean
  | remove hclean => exact h.remove hclean
  | memberCreate hclean => exact h.memberCreate hclean
  | memberRemove hclean => exact h.memberRemove hclean

end PortModes

end System

/-- There is no router interface, no port is in routing mode, and a port is in one LAG. -/
structure NoPortsRouted (σ : PortSys) : Prop where
  tree : σ.fib.router_interface_tree = []
  mode : ∀ p, σ.fib.port_fwd_mode p ≠ .routing
  oneLag : (σ.lag_members.map Prod.snd).Nodup

theorem NoPortsRouted.portModes (h : NoPortsRouted σ) : PortModes σ := by
  refine ⟨?_, h.oneLag, fun p => iff_of_false (h.mode p) ?_⟩
  · rw [h.tree]
    exact List.nodup_nil
  · simp [h.tree]

/-- Port modes follow the router interfaces, and an update of a list of ports that fails leaves
them alone. -/
structure PortsFollow (σ : PortSys) : Prop where
  mode : ∀ p, σ.fib.port_fwd_mode p = .routing ↔
    ∃ rif ∈ σ.fib.router_interface_tree, rif.RoutesPort σ.lag_members p
  atomic : ∀ env is_set (list : List Oid), list.Nodup → PortListAtomic env is_set list σ.fib

/-- **Port modes follow the router interfaces** in every state that calls reach, as long as
resets go through, and no port that is reset is still used. -/
theorem portsFollow_of_run {τ : PortSys} (hs : NoPortsRouted σ) (hrun : Run portStep PortCallOk σ τ) :
    (∀ p, τ.fib.port_fwd_mode p = .routing ↔
      ∃ rif ∈ τ.fib.router_interface_tree, rif.RoutesPort τ.lag_members p) ∧
    ∀ env is_set (list : List Oid), list.Nodup →
      (PortListAtomic env is_set list τ.fib ↔
        PortListUndone env is_set list τ.fib.port_fwd_mode) :=
  ⟨(hrun.induct (P := PortModes) (fun _ _ h hc => h.step hc) hs.portModes).mode,
    fun _ _ _ hnodup => portListAtomic_iff hnodup⟩

/-! ## Two router interfaces on a port, and a LAG -/

def onPort3 (mac : Mac) : List RifAttr :=
  [.virtualRouterId ⟨.virtualRouter, 1⟩, .type 0, .portId ⟨.port, 3⟩, .srcMacAddress mac]

def noLags : PortSys := ⟨oneVr, []⟩

def rifOnPort3 : PortSys :=
  portStep ⟨Env.good 1, .routerInterfaceCreate .null (onPort3 7)⟩ noLags

def port4Unread : Env :=
  { Env.good 1 with
    status := fun c =>
      match c with
      | .portForwardModeInfo port_id _ _ _ _ => if port_id = ⟨.port, 4⟩ then .failure else .success
      | _ => .success }

theorem noPortsRouted_noLags : NoPortsRouted noLags :=
  ⟨rfl, fun _ h => PortFwdMode.noConfusion h, List.nodup_nil⟩

/-- Of two router interfaces on a port, the one that is removed takes the port out of routing
mode; and a list of ports that fails at the second takes the first out of it. -/
theorem not_portsFollow_port3 :
    NoPortsRouted noLags ∧
      ¬ PortsFollow (portStep ⟨Env.good 1, .routerInterfaceRemove ⟨.routerInterface, 1⟩⟩
        (portStep ⟨Env.good 2, .routerInterfaceCreate .null (onPort3 8)⟩ rifOnPort3)) ∧
      ¬ PortListAtomic port4Unread true [⟨.port, 3⟩, ⟨.port, 4⟩] rifOnPort3.fib := by
  refine ⟨noPortsRouted_noLags, fun h => ?_, fun h => ?_⟩
  · have hmode := (h.mode ⟨.port, 3⟩).mpr (by decide)
    revert hmode
    decide
  · have hmode := h (by decide) ⟨.port, 3⟩
    revert hmode
    decide

theorem portsFollow_of_run_lag5 :
    let τ := portStep ⟨Env.good 1, .lagMemberCreate ⟨.lag, 5⟩ ⟨.port, 6⟩⟩
      (portStep ⟨Env.good 1, .routerInterfaceCreate .null (onLag5 1 7)⟩ noLags)
    (∀ p, τ.fib.port_fwd_mode p = .routing ↔
      ∃ rif ∈ τ.fib.router_interface_tree, rif.RoutesPort τ.lag_members p) ∧
    ∀ env is_set (list : List Oid), list.Nodup →
      (PortListAtomic env is_set list τ.fib ↔
        PortListUndone env is_set list τ.fib.port_fwd_mode) := by
  refine portsFollow_of_run noPortsRouted_noLags
    (.snoc _ (.snoc _ (.nil _) (.create ?_)) (.memberCreate fun _ => .inr (iff_of_true ?_ ?_)))
  · -- the LAG has no ports yet
    have hports : ∀ rif, RifRequest (noLags.outside (Env.good 1)) (onLag5 1 7) noLags.fib rif →
        rifPorts noLags.lagPorts rif = [] := by
      intro rif hrequest
      have hparse : rifAttributesParse (noLags.outside (Env.good 1)) (onLag5 1 7)
          (rifAttributesInit (noLags.outside (Env.good 1))) noLags.fib = .ok
          (rifInheritVrfAttributes ⟨{ rifAttributesInit (Env.good 1) with
            vrf_id := ⟨.virtualRouter, 1⟩, type := .port, attachment := ⟨.lag, 5⟩, src_mac := 7 },
            true, false, true, .port, true, false, false⟩ oneVr) := by rfl
      rw [← Except.ok.inj (hparse.symm.trans hrequest.2)]
      rfl
    have hnone : ∀ rif, RifRequest (noLags.outside (Env.good 1)) (onLag5 1 7) noLags.fib rif →
        ∀ (j : Nat) q, (rifPorts noLags.lagPorts rif)[j]? ≠ some q := by
      intro rif hrequest j q hq
      rw [hports rif hrequest] at hq
      simp at hq
    refine ⟨fun rif hrequest _ k hk => ?_, fun rif hc j q hj => ?_, fun rif hrequest _ _ =>
      ⟨.inr (.inr (.inr ⟨rfl, .inr rfl⟩)), fun j q hj => ?_⟩⟩
    · have hlen : k < (rifPorts noLags.lagPorts rif).length := hk
      rw [hports rif hrequest] at hlen
      exact absurd hlen (Nat.not_lt_zero k)
    · exact absurd hj (hnone rif ⟨hc.taken, hc.parse⟩ j q)
    · exact absurd hj (hnone rif hrequest j q)
  · exact ⟨⟨⟨.routerInterface, 1⟩, _, by rfl, by decide, by rfl, rfl, rfl⟩, rfl, rfl⟩
  · exact ⟨_, List.mem_singleton.mpr rfl, by decide, by decide, rfl, rfl⟩

end OpxSai
