import OpxSai.Routing.EncapFrame

/-!
# Routing — the tunnels of encap next hops

The resolution of an encap next hop reads its tunnel and leaves the tunnels alone. A next hop that is
created is put at the end of the list of its tunnel, and one that is removed is taken off it.
-/

namespace OpxSai

open Fib

section Tunnels

variable (env : Env) (e : Ptr)

/-- **A next hop comes** to the end of the list of its tunnel, or the lists stay. -/
theorem encapNextHopCreate_tunnels {s : Fib} :
    ((encapNextHopCreate env e s).1 = .success ∧ (encapNextHopCreate env e s).2.tunnels =
      (s.modTunnel (s.nh e).tunnel_id (Tunnel.addEncapNh e)).tunnels) ∨
    ((encapNextHopCreate env e s).1 ≠ .success ∧ (encapNextHopCreate env e s).2.tunnels = s.tunnels) := by
  unfold encapNextHopCreate
  by_cases hnpu : (s.call env (.nexthopCreate (s.nh e))).1 = .success
  · rw [andThen_of_success hnpu]
    dsimp only
    have hwrites := encapNhUnderlayObjResolve_writes env (P := fun _ => True) (e := e) trivial
      (s.call env (.nexthopCreate (s.nh e))).2
    have htunnels := hwrites.tunnels
    have hcore := hwrites.core
    generalize encapNhUnderlayObjResolve _ e _ = x at *
    split
    · refine .inl ⟨rfl, ?_⟩
      have hid : (x.2.nh e).tunnel_id = (s.nh e).tunnel_id := nh_field_of_core (f := Nh.tunnel_id) (fun _ => rfl) hcore e
      unfold tunnelEncapNhAddToTunnelList modTunnel
      rw [hid, htunnels]
      rfl
    next hfail => exact .inr ⟨hfail, htunnels⟩
  · rw [andThen_of_failure hnpu]
    exact .inr ⟨hnpu, rfl⟩

/-- **A next hop goes** from the list of its tunnel, or the lists stay. -/
theorem encapNextHopRemove_tunnels {s : Fib} :
    ((encapNextHopRemove env e s).1 = .success ∧ (encapNextHopRemove env e s).2.tunnels =
      (s.modTunnel (s.nh e).tunnel_id (Tunnel.removeEncapNh env e)).tunnels) ∨
    ((encapNextHopRemove env e s).1 ≠ .success ∧ (encapNextHopRemove env e s).2.tunnels = s.tunnels) := by
  unfold encapNextHopRemove
  by_cases hnpu : (s.call env (.nexthopRemove (s.nh e))).1 = .success
  · rw [andThen_of_success hnpu]
    have hwrites := encapNextHopRemoveFromUnderlayObj_writes env (P := fun _ => True) (e := e) trivial
      (s.call env (.nexthopRemove (s.nh e))).2
    have htunnels := hwrites.tunnels
    have hcore := hwrites.core
    generalize encapNextHopRemoveFromUnderlayObj _ e _ = x at *
    refine .inl ⟨rfl, ?_⟩
    have hid : (x.nh e).tunnel_id = (s.nh e).tunnel_id := nh_field_of_core (f := Nh.tunnel_id) (fun _ => rfl) hcore e
    unfold tunnelEncapNhRemoveFromTunnelList modTunnel
    dsimp only
    rw [hid, htunnels]
    rfl
  · rw [andThen_of_failure hnpu]
    exact .inr ⟨hnpu, rfl⟩

end Tunnels

end OpxSai
