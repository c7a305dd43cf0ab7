import OpxSai.Bridge.Bridge
import OpxSai.Lib.LockOrder
import OpxSai.Lib.Run

/-!
# The locks of the bridge, the tunnel and their neighbours

A bridge port call takes the lock of the bridge, and under it that of the module of its type. The calls on
the entries of a tunnel map take the lock of the tunnel, and under it that of the bridge. A call on a
bridge port of a tunnel takes these two the other way round, so the two calls can wait for each other.

* `ModuleMoveFits`, `not_deadlocked_of_run` — the condition, and that no run under it ends in a deadlock.
-/

variable (call : ModuleCall)

namespace OpxSai

open LockStep

/-! ## The calls -/

inductive ModuleLock where
  | bridge | tunnel | fib | port | lag
deriving DecidableEq

/-- A call, with what decides which locks it takes: the type of its bridge port once it is known, that its
attributes are valid, and how far it comes. -/
inductive ModuleCall where
  | bridgePortCreate (bridge_port_type : Option BridgePortType) (is_lag : Bool)
  | bridgePortRemove (bridge_port_type : Option BridgePortType) (is_lag : Bool)
  | tunnelMapEntryCreate (valid : Bool)
  | tunnelMapEntryRemove
  | tunnelMapEntrySet (valid : Bool)
  | tunnelCreate (valid : Bool)
  | tunnelRemove (valid : Bool)
  | tunnelTermCreate (valid encap_nh is_encap_nh_setup failed : Bool)
  | tunnelTermRemove (valid encap_nh : Bool)

/-- `sai_bridge_take_module_lock` -/
def bridgeModuleLock (is_lag : Bool) : BridgePortType → Option ModuleLock
  | .port | .subPort => if is_lag = true then some .lag else some .port
  | .router1Q | .router1D => some .fib
  | .tunnel => some .tunnel
  | .other _ => none

def underLock (l : ModuleLock) (steps : List (LockStep ModuleLock)) : List (LockStep ModuleLock) :=
  lock l :: steps ++ [unlock l]

/-- `sai_api_bridge_port_create` and `sai_api_bridge_port_remove`: without a type, or with a port that is in
use, they end before the lock of the module. -/
def bridgePortSteps (module_lock : Option ModuleLock) : List (LockStep ModuleLock) :=
  underLock .bridge (module_lock.elim [] fun l => underLock l [])

def tunnelMapEntrySteps (valid : Bool) : List (LockStep ModuleLock) :=
  if valid = true then underLock .tunnel (underLock .bridge []) else []

/-- `dn_sai_tunnel_create` and `dn_sai_tunnel_remove` -/
def tunnelSteps (valid : Bool) : List (LockStep ModuleLock) :=
  if valid = true then underLock .tunnel (underLock .fib []) else []

/-- `sai_tunnel_encap_nh_setup` and `sai_tunnel_encap_nh_teardown`, where they are called. -/
def encapNhSteps (called : Bool) : List (LockStep ModuleLock) :=
  if called = true then underLock .fib [] else []

/-- The locks that a call takes and gives back. The roll-back of a tunnel termination entry comes after
its lock is given back. -/
def moduleSteps : ModuleCall → List (LockStep ModuleLock)
  | .bridgePortCreate bridge_port_type is_lag | .bridgePortRemove bridge_port_type is_lag =>
    bridgePortSteps (bridge_port_type.bind (bridgeModuleLock is_lag))
  | .tunnelMapEntryCreate valid | .tunnelMapEntrySet valid => tunnelMapEntrySteps valid
  | .tunnelMapEntryRemove => tunnelMapEntrySteps true
  | .tunnelCreate valid | .tunnelRemove valid => tunnelSteps valid
  | .tunnelTermCreate valid encap_nh is_encap_nh_setup failed =>
    if valid = true then
      underLock .tunnel (encapNhSteps encap_nh) ++
        encapNhSteps (encap_nh && is_encap_nh_setup && failed)
    else []
  | .tunnelTermRemove valid encap_nh =>
    if valid = true then underLock .tunnel (encapNhSteps encap_nh) else []

def ModuleCall.onTunnelPort : ModuleCall → Bool
  | .bridgePortCreate bridge_port_type _ | .bridgePortRemove bridge_port_type _ =>
    bridge_port_type == some .tunnel
  | _ => false

def ModuleCall.onMapEntry : ModuleCall → Bool
  | .tunnelMapEntryCreate valid | .tunnelMapEntrySet valid => valid
  | .tunnelMapEntryRemove => true
  | _ => false

/-- The threads and their calls. -/
abbrev ModuleSystem := LockSystem ModuleCall ModuleLock

/-- **When a step keeps the order.** A call on a bridge port of a tunnel does not take the lock of the
bridge while a map entry call has the lock of the tunnel and waits for it, and a map entry call does not
take the lock of the tunnel while a call on a bridge port has that of the bridge and waits for it. -/
def ModuleMoveFits : LockMove ModuleCall → ModuleSystem → Prop
  | .step t, s => ∀ thread, s.threads t = some thread → thread.pos = 0 →
      (thread.call.onTunnelPort = true → s.holder .bridge = none →
        ∀ u, ¬ s.TakesUnder moduleSteps .tunnel .bridge u) ∧
      (thread.call.onMapEntry = true → s.holder .tunnel = none →
        ∀ u, ¬ s.TakesUnder moduleSteps .bridge .tunnel u)
  | _, _ => True

/-! ## The shapes of the calls -/

def moduleShapes : List (List (LockStep ModuleLock)) :=
  [[], underLock .bridge [], underLock .bridge (underLock .port []), underLock .bridge (underLock .lag []),
   underLock .bridge (underLock .fib []), underLock .bridge (underLock .tunnel []),
   underLock .tunnel (underLock .bridge []), underLock .tunnel (underLock .fib []), underLock .tunnel [],
   underLock .tunnel (underLock .fib []) ++ underLock .fib []]

theorem bridgePortSteps_mem {bridge_port_type : Option BridgePortType} {is_lag : Bool} :
    bridgePortSteps (bridge_port_type.bind (bridgeModuleLock is_lag)) ∈ moduleShapes := by
  have hall : ∀ module_lock, module_lock ≠ some ModuleLock.bridge →
      bridgePortSteps module_lock ∈ moduleShapes := by
    intro module_lock hne
    cases module_lock with
    | none => decide
    | some l => cases l <;> first | decide | exact absurd rfl hne
  refine hall _ ?_
  cases bridge_port_type with
  | none => exact nofun
  | some t => cases t <;> cases is_lag <;> exact nofun

theorem moduleSteps_mem : moduleSteps call ∈ moduleShapes := by
  cases call with
  | bridgePortCreate bridge_port_type is_lag => exact bridgePortSteps_mem
  | bridgePortRemove bridge_port_type is_lag => exact bridgePortSteps_mem
  | tunnelMapEntryRemove => decide
  | tunnelMapEntryCreate valid | tunnelMapEntrySet valid | tunnelCreate valid | tunnelRemove valid =>
    cases valid <;> decide
  | tunnelTermCreate valid encap_nh is_encap_nh_setup failed =>
    cases valid <;> cases encap_nh <;> cases is_encap_nh_setup <;> cases failed <;> decide
  | tunnelTermRemove valid encap_nh => cases valid <;> cases encap_nh <;> decide

theorem moduleSteps_back : heldAfter [] (moduleSteps call) = [] := by
  have hall : ∀ steps ∈ moduleShapes, heldAfter [] steps = [] := by decide
  exact hall _ (moduleSteps_mem _)

theorem modulePairs_mem : ∀ x ∈ lockPairs [] (moduleSteps call),
    x ∈ [(ModuleLock.bridge, ModuleLock.port), (.bridge, .lag), (.bridge, .fib), (.bridge, .tunnel),
      (.tunnel, .bridge), (.tunnel, .fib)] := by
  have hall : ∀ steps ∈ moduleShapes, ∀ x ∈ lockPairs [] steps,
      x ∈ [(ModuleLock.bridge, ModuleLock.port), (.bridge, .lag), (.bridge, .fib), (.bridge, .tunnel),
        (.tunnel, .bridge), (.tunnel, .fib)] := by decide
  exact hall _ (moduleSteps_mem _)

/-- A lock that is taken under the bridge and the tunnel at once is the second of its call. -/
theorem moduleSteps_second {pos : Nat} (l l' : ModuleLock)
    (hpair : (l, l') = (.bridge, .tunnel) ∨ (l, l') = (.tunnel, .bridge))
    (hnext : (moduleSteps call)[pos]? = some (.lock l'))
    (hheld : l ∈ heldAfter [] ((moduleSteps call).take pos)) : pos = 1 := by
  have hall : ∀ steps ∈ moduleShapes, ∀ pos < 6,
      ∀ x ∈ [(ModuleLock.bridge, ModuleLock.tunnel), (.tunnel, .bridge)],
        steps[pos]? = some (.lock x.2) → x.1 ∈ heldAfter [] (steps.take pos) → pos = 1 := by decide
  have hlength : ∀ steps ∈ moduleShapes, steps.length ≤ 6 := by decide
  have hmem := moduleSteps_mem call
  have hpos : pos < 6 := by
    have := (List.getElem?_eq_some_iff.mp hnext).1
    have := hlength _ hmem
    omega
  refine hall _ hmem pos hpos (l, l') ?_ hnext hheld
  rcases hpair with heq | heq <;> rw [heq] <;> decide

theorem onTunnelPort_of_pair {call}
    (h : (ModuleLock.bridge, ModuleLock.tunnel) ∈ lockPairs [] (moduleSteps call)) :
    call.onTunnelPort = true := by
  have hport : ∀ bridge_port_type is_lag, (ModuleLock.bridge, ModuleLock.tunnel) ∈
      lockPairs [] (bridgePortSteps (Option.bind bridge_port_type (bridgeModuleLock is_lag))) →
        (bridge_port_type == some BridgePortType.tunnel) = true := by
    intro bridge_port_type is_lag h
    cases bridge_port_type with
    | none => exact absurd (show _ ∈ lockPairs [] (bridgePortSteps none) from h) (by decide)
    | some t =>
      cases t with
      | tunnel => rfl
      | port | subPort | router1Q | router1D => cases is_lag <;> exact absurd h (by decide)
      | other s32 => exact absurd (show _ ∈ lockPairs [] (bridgePortSteps none) from h) (by decide)
  cases call with
  | bridgePortCreate bridge_port_type is_lag => exact hport bridge_port_type is_lag h
  | bridgePortRemove bridge_port_type is_lag => exact hport bridge_port_type is_lag h
  | tunnelMapEntryRemove => exact absurd h (by decide)
  | tunnelMapEntryCreate valid | tunnelMapEntrySet valid | tunnelCreate valid | tunnelRemove valid =>
    cases valid <;> exact absurd h (by decide)
  | tunnelTermCreate valid encap_nh is_encap_nh_setup failed =>
    cases valid <;> cases encap_nh <;> cases is_encap_nh_setup <;> cases failed <;>
      exact absurd h (by decide)
  | tunnelTermRemove valid encap_nh => cases valid <;> cases encap_nh <;> exact absurd h (by decide)

theorem onMapEntry_of_pair {call}
    (h : (ModuleLock.tunnel, ModuleLock.bridge) ∈ lockPairs [] (moduleSteps call)) :
    call.onMapEntry = true := by
  have hport : ∀ module_lock, (ModuleLock.tunnel, ModuleLock.bridge) ∈
      lockPairs [] (bridgePortSteps module_lock) → module_lock = some .bridge := by
    intro module_lock h
    cases module_lock with
    | none => exact absurd h (by decide)
    | some l => cases l <;> first | rfl | exact absurd h (by decide)
  have hnot : ∀ (bridge_port_type : Option BridgePortType) (is_lag : Bool),
      bridge_port_type.bind (bridgeModuleLock is_lag) ≠ some .bridge := by
    intro bridge_port_type is_lag
    cases bridge_port_type with
    | none => exact nofun
    | some t => cases t <;> cases is_lag <;> exact nofun
  cases call with
  | bridgePortCreate bridge_port_type is_lag => exact absurd (hport _ h) (hnot bridge_port_type is_lag)
  | bridgePortRemove bridge_port_type is_lag => exact absurd (hport _ h) (hnot bridge_port_type is_lag)
  | tunnelMapEntryRemove => rfl
  | tunnelMapEntryCreate valid | tunnelMapEntrySet valid =>
    cases valid with
    | true => rfl
    | false => exact absurd h (by decide)
  | tunnelCreate valid | tunnelRemove valid => cases valid <;> exact absurd h (by decide)
  | tunnelTermCreate valid encap_nh is_encap_nh_setup failed =>
    cases valid <;> cases encap_nh <;> cases is_encap_nh_setup <;> cases failed <;>
      exact absurd h (by decide)
  | tunnelTermRemove valid encap_nh => cases valid <;> cases encap_nh <;> exact absurd h (by decide)

/-! ## The invariant -/

/-- Threads have the locks that their calls took, and no two are between the locks of the bridge and the
tunnel the two ways round. -/
structure ModuleInv (s : ModuleSystem) : Prop where
  held : LockInv moduleSteps s
  order : ∀ a b, s.TakesUnder moduleSteps .bridge .tunnel a → ¬ s.TakesUnder moduleSteps .tunnel .bridge b

theorem ModuleInv.initial : ModuleInv .initial :=
  ⟨.initial _, fun _ _ h => nomatch h.1⟩

section Steps

variable {s : ModuleSystem}

theorem TakesUnder.ne {a b : Nat} (ha : s.TakesUnder moduleSteps .bridge .tunnel a)
    (hb : s.TakesUnder moduleSteps .tunnel .bridge b) : a ≠ b := by
  rintro rfl
  obtain ⟨-, thread, hthread, hnext⟩ := ha
  obtain ⟨-, thread', hthread', hnext'⟩ := hb
  obtain rfl := Option.some.inj (hthread.symm.trans hthread')
  cases hnext.symm.trans hnext'

theorem ModuleInv.move {move} (h : ModuleInv s) (hfits : ModuleMoveFits move s) :
    ModuleInv (lockMove moduleSteps move s) := by
  refine ⟨h.held.move moduleSteps_back move, fun a b ha hb => ?_⟩
  have hne := TakesUnder.ne ha hb
  have ha' := h.held.takesUnder moduleSteps_back
    (fun call pos => moduleSteps_second _ _ _ (.inl rfl)) ha
  have hb' := h.held.takesUnder moduleSteps_back
    (fun call pos => moduleSteps_second _ _ _ (.inr rfl)) hb
  rcases ha' with ha' | ⟨thread, rfl, ht, hpos, hfree, hpair⟩
  · rcases hb' with hb' | ⟨thread, rfl, ht, hpos, hfree, hpair⟩
    · exact h.order a b ha' hb'
    · exact (hfits thread ht hpos).2 (onMapEntry_of_pair hpair) hfree a ha'
  rcases hb' with hb' | ⟨thread', hmove, -⟩
  · exact (hfits thread ht hpos).1 (onTunnelPort_of_pair hpair) hfree b hb'
  · exact hne (LockMove.step.inj hmove)

/-- A numbering of the locks, with that of the bridge or that of the tunnel first. -/
def moduleRank (bridge tunnel : Nat) : ModuleLock → Nat
  | .bridge => bridge
  | .tunnel => tunnel
  | .fib | .port | .lag => 2

/-- **No deadlock**: one of the two orders of the bridge and the tunnel is that of the threads. -/
theorem ModuleInv.not_deadlocked (h : ModuleInv s) : ¬ s.Deadlocked moduleSteps := by
  by_cases hport : ∃ a, s.TakesUnder moduleSteps .bridge .tunnel a
  · obtain ⟨a, ha⟩ := hport
    refine OpxSai.not_deadlocked _ (moduleRank 0 1) fun t l l' hhas hwaits => ?_
    obtain ⟨thread, -, hpair⟩ := h.held.pair hhas hwaits
    have hne : (l, l') ≠ (.tunnel, .bridge) := by
      intro heq
      cases heq
      exact h.order a t ha ⟨hhas, hwaits⟩
    have hmem := modulePairs_mem _ _ hpair
    revert hmem hne
    cases l <;> cases l' <;> decide
  · refine OpxSai.not_deadlocked _ (moduleRank 1 0) fun t l l' hhas hwaits => ?_
    obtain ⟨thread, -, hpair⟩ := h.held.pair hhas hwaits
    have hne : (l, l') ≠ (.bridge, .tunnel) := by
      intro heq
      cases heq
      exact hport ⟨t, hhas, hwaits⟩
    have hmem := modulePairs_mem _ _ hpair
    revert hmem hne
    cases l <;> cases l' <;> decide

end Steps

/-- **No run ends in a deadlock** whose steps keep the order. -/
theorem not_deadlocked_of_run {s : ModuleSystem}
    (hrun : Run (lockMove moduleSteps) ModuleMoveFits .initial s) : ¬ s.Deadlocked moduleSteps :=
  (hrun.induct (fun move _ h hfits => h.move hfits) ModuleInv.initial).not_deadlocked

/-- A map entry call waits for a bridge port call, which takes the lock of the tunnel before it. -/
theorem not_deadlocked_of_run_waiting :
    ¬ (lockMove moduleSteps (.step 1) (lockMove moduleSteps (.step 0) (lockMove moduleSteps (.step 0)
      (lockMove moduleSteps (.start 1 .tunnelMapEntryRemove) (lockMove moduleSteps
        (.start 0 (.bridgePortCreate (some .tunnel) false)) .initial))))).Deadlocked moduleSteps := by
  have hport : Run (lockMove moduleSteps) ModuleMoveFits .initial _ :=
    .one (.start 0 (.bridgePortCreate (some .tunnel) false)) (by trivial)
  have hentry := hport.snoc (.start 1 .tunnelMapEntryRemove) (by trivial)
  have hbridge := hentry.snoc (.step 0) (by
    intro thread ht _
    cases ht
    exact ⟨fun _ _ u hu => (nomatch hu.1), fun h => (nomatch h)⟩)
  have htunnel := hbridge.snoc (.step 0) (by
    intro thread ht hpos
    cases ht
    cases hpos)
  refine not_deadlocked_of_run (htunnel.snoc (.step 1) ?_)
  intro thread ht _
  cases ht
  exact ⟨fun h => (nomatch h), fun _ hfree => (nomatch hfree)⟩

/-- A call on a bridge port of a tunnel and one on a map entry wait for each other. -/
theorem deadlocked_bridgePort_mapEntry : ¬ ∀ s : ModuleSystem,
    Run (lockMove moduleSteps) (fun _ _ => True) .initial s → ¬ s.Deadlocked moduleSteps := by
  intro h
  have hport : Run (lockMove moduleSteps) (fun _ _ => True) .initial _ :=
    .one (.start 0 (.bridgePortCreate (some .tunnel) false)) trivial
  have hentry := hport.snoc (.start 1 (.tunnelMapEntryCreate true)) trivial
  have hbridge := hentry.snoc (.step 0) trivial
  have htunnel := hbridge.snoc (.step 1) trivial
  refine h _ htunnel ⟨{t | t = 0 ∨ t = 1}, ⟨0, .inl rfl⟩, fun t ht => ?_⟩
  rcases ht with rfl | rfl
  · exact ⟨1, .inr rfl, by decide, .bridge, rfl, _, rfl, rfl⟩
  · exact ⟨0, .inl rfl, by decide, .tunnel, rfl, _, rfl, rfl⟩

end OpxSai
