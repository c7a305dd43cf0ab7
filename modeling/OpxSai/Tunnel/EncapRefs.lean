import OpxSai.Routing.NextHopEffect
import OpxSai.Tunnel.TunnelTerm

/-!
# The references to encap next hops

A termination entry takes a reference to the next hop with its key and gives it back later. The next hop is
created with the first reference, and removed with the last.

* `EncapFib`, `encapRefs` — the next hops, and the references to the one with a key.
-/

namespace OpxSai

open Fib

/-- The next hops: each has the bit of its owner, and none is in a group. -/
structure EncapFib (s : Fib) : Prop extends NodePlaces s where
  owned : ∀ p, s.NhLive p → (s.nh p).owner_flag = ⟨true, false⟩
  lone : ∀ p, (s.nh p).nh_group_list = []

def encapRefs (key : NhKey) (s : Fib) : Nat :=
  (ipNextHopNodeGet key s).elim 0 fun p => (s.nh p).ref_count

section Refs

variable {s t : Fib} {p : Ptr} {node : Nh} {key : NhKey}

theorem encapRefs_of_live (h : NodePlaces s) (hp : s.NhLive p) :
    encapRefs (s.nh p).key s = (s.nh p).ref_count := by
  unfold encapRefs
  rw [h.nodeGet_self hp]
  rfl

theorem encapRefs_of_none (h : ∀ p, s.NhLive p → (s.nh p).key ≠ key) (hs : NodePlaces s) :
    encapRefs key s = 0 := by
  have hnone : ipNextHopNodeGet key s = none := by
    refine Option.eq_none_iff_forall_ne_some.mpr fun p hget => ?_
    obtain ⟨hlive, hkey⟩ := hs.nodeGet hget
    exact h p hlive hkey
  unfold encapRefs
  rw [hnone]
  rfl

theorem encapRefs_congr (hs : NodePlaces s) (ht : NodePlaces t)
    (hnode : ∀ p, (t.NhLive p ∧ (t.nh p).key = key) ↔ s.NhLive p ∧ (s.nh p).key = key)
    (hrefs : ∀ p, s.NhLive p → (s.nh p).key = key → (t.nh p).ref_count = (s.nh p).ref_count) :
    encapRefs key t = encapRefs key s := by
  have hget : ipNextHopNodeGet key t = ipNextHopNodeGet key s := by
    ext p
    rw [ht.nodeGet_iff, hs.nodeGet_iff]
    exact hnode p
  unfold encapRefs
  rw [hget]
  cases hfound : ipNextHopNodeGet key s with
  | none => rfl
  | some p =>
    obtain ⟨hlive, hkey⟩ := hs.nodeGet hfound
    exact hrefs p hlive hkey

theorem NhsKept.key_eq (h : NhsKept s t) (p) : (t.nh p).key = (s.nh p).key :=
  field_of_core_eq (f := Nh.key) (fun _ => rfl) (h.nodes p)

theorem NhsKept.refs (h : NhsKept s t) (hs : NodePlaces s) (key) :
    encapRefs key t = encapRefs key s := by
  refine encapRefs_congr hs h.places (fun p => by rw [h.live, h.key_eq]) fun p _ _ => ?_
  exact field_of_core_eq (f := Nh.ref_count) (fun _ => rfl) (h.nodes p)

theorem NhAdded.refs (h : NhAdded p node s t) (hs : NodePlaces s) (key) :
    encapRefs key t = if key = node.key then node.ref_count else encapRefs key s := by
  have hlive : t.NhLive p := (h.live p).mpr (.inl rfl)
  have hkey : (t.nh p).key = node.key := field_of_core_eq (f := Nh.key) (fun _ => rfl) h.node
  have hother : ∀ q, q ≠ p → (t.nh q).key = (s.nh q).key := fun q hq =>
    field_of_core_eq (f := Nh.key) (fun _ => rfl) (h.others q hq)
  have hfresh : ∀ q, s.NhLive q → q ≠ p := by
    rintro q hq rfl
    exact h.fresh hq
  split
  next heq =>
    subst heq
    rw [← hkey, encapRefs_of_live h.places hlive]
    exact field_of_core_eq (f := Nh.ref_count) (fun _ => rfl) h.node
  rename_i hne
  refine encapRefs_congr hs h.places (fun q => ?_) fun q hq _ => ?_
  · rw [h.live]
    constructor
    · rintro ⟨rfl | hq, hk⟩
      · exact absurd (hk.symm.trans hkey) hne
      · exact ⟨hq, (hother q (hfresh q hq)).symm.trans hk⟩
    · rintro ⟨hq, hk⟩
      exact ⟨.inr hq, (hother q (hfresh q hq)).trans hk⟩
  · exact field_of_core_eq (f := Nh.ref_count) (fun _ => rfl) (h.others q (hfresh q hq))

theorem NhDropped.refs (h : NhDropped p s t) (hs : NodePlaces s) (hp : s.NhLive p) (key) :
    encapRefs key t = if key = (s.nh p).key then 0 else encapRefs key s := by
  have hkey : ∀ q, q ≠ p → (t.nh q).key = (s.nh q).key := fun q hq =>
    field_of_core_eq (f := Nh.key) (fun _ => rfl) (h.others q hq)
  split
  next heq =>
    subst heq
    refine encapRefs_of_none (fun q hq hk => ?_) h.places
    obtain ⟨hne, hlive⟩ := (h.live q).mp hq
    rw [hkey q hne] at hk
    have hself := hs.nodeGet_self hlive
    rw [hk, hs.nodeGet_self hp] at hself
    exact hne (Option.some.inj hself).symm
  next hne =>
    have hnot : ∀ q, s.NhLive q → (s.nh q).key = key → q ≠ p := by
      rintro q hq hk rfl
      exact hne hk.symm
    refine encapRefs_congr hs h.places (fun q => ?_) fun q hq hk => ?_
    · rw [h.live]
      constructor
      · rintro ⟨⟨hq, hlive⟩, hk⟩
        exact ⟨hlive, (hkey q hq).symm.trans hk⟩
      · rintro ⟨hlive, hk⟩
        have hq := hnot q hlive hk
        exact ⟨⟨hq, hlive⟩, (hkey q hq).trans hk⟩
    · exact field_of_core_eq (f := Nh.ref_count) (fun _ => rfl) (h.others q (hnot q hq hk))

theorem encapRefs_modNh (hs : NodePlaces s) (hp : s.NhLive p) {f : Nh → Nh}
    (hplace : (f (s.nh p)).place = (s.nh p).place) (key) :
    encapRefs key (s.modNh p f) =
      if key = (s.nh p).key then (f (s.nh p)).ref_count else encapRefs key s := by
  have hplaces := hs.of_same (SamePlaces.modNh s p hplace)
  have hread := nh_modNh hp f
  have hkey : ∀ q, ((s.modNh p f).nh q).key = (s.nh q).key := fun q =>
    (SamePlaces.modNh s p hplace).key q
  split
  next heq =>
    subst heq
    have hrefs := encapRefs_of_live hplaces ((nhLive_modNh s p p f).mpr hp)
    rw [hkey, hread, if_pos rfl] at hrefs
    exact hrefs
  rename_i hne
  refine encapRefs_congr hs hplaces (fun q => by rw [nhLive_modNh, hkey]) fun q _ hk => ?_
  rw [hread, if_neg]
  rintro rfl
  exact hne hk.symm

theorem EncapFib.kept (h : EncapFib s) (hkept : NhsKept s t) : EncapFib t := by
  refine ⟨hkept.places, fun p hp => ?_, fun p => ?_⟩
  · rw [field_of_core_eq (f := Nh.owner_flag) (fun _ => rfl) (hkept.nodes p)]
    exact h.owned p ((hkept.live p).mp hp)
  · rw [field_of_core_eq (f := Nh.nh_group_list) (fun _ => rfl) (hkept.nodes p)]
    exact h.lone p

theorem EncapFib.added (h : EncapFib s) (hadded : NhAdded p node s t)
    (howned : node.owner_flag = ⟨true, false⟩) (hlone : node.nh_group_list = []) : EncapFib t := by
  refine ⟨hadded.places, fun q hq => ?_, fun q => ?_⟩
  · by_cases heq : q = p
    · rw [heq, field_of_core_eq (f := Nh.owner_flag) (fun _ => rfl) hadded.node, howned]
    · rw [field_of_core_eq (f := Nh.owner_flag) (fun _ => rfl) (hadded.others q heq)]
      exact h.owned q (((hadded.live q).mp hq).resolve_left heq)
  · by_cases heq : q = p
    · rw [heq, field_of_core_eq (f := Nh.nh_group_list) (fun _ => rfl) hadded.node, hlone]
    · rw [field_of_core_eq (f := Nh.nh_group_list) (fun _ => rfl) (hadded.others q heq)]
      exact h.lone q

theorem EncapFib.dropped (h : EncapFib s) (hdropped : NhDropped p s t) : EncapFib t := by
  refine ⟨hdropped.places, fun q hq => ?_, fun q => ?_⟩
  · obtain ⟨hne, hlive⟩ := (hdropped.live q).mp hq
    rw [field_of_core_eq (f := Nh.owner_flag) (fun _ => rfl) (hdropped.others q hne)]
    exact h.owned q hlive
  · by_cases heq : q = p
    · have hdead : ¬ t.NhLive q := fun hlive => ((hdropped.live q).mp hlive).1 heq
      rw [nh_of_not_live hdead]
      rfl
    · rw [field_of_core_eq (f := Nh.nh_group_list) (fun _ => rfl) (hdropped.others q heq)]
      exact h.lone q

theorem EncapFib.modNh (h : EncapFib s) (hp : s.NhLive p) {f : Nh → Nh}
    (hplace : (f (s.nh p)).place = (s.nh p).place)
    (howned : (f (s.nh p)).owner_flag = (s.nh p).owner_flag)
    (hlone : (f (s.nh p)).nh_group_list = (s.nh p).nh_group_list) : EncapFib (s.modNh p f) := by
  refine ⟨h.toNodePlaces.of_same (SamePlaces.modNh s p hplace), fun q hq => ?_, fun q => ?_⟩
  · rw [nh_modNh hp]
    split
    next heq =>
      rw [heq, howned]
      exact h.owned p hp
    · exact h.owned q ((nhLive_modNh s p q f).mp hq)
  · rw [nh_modNh hp]
    split
    next heq =>
      rw [heq, hlone]
      exact h.lone p
    · exact h.lone q

end Refs

/-! ## A reference is taken -/

/-- The router interface of a tunnel is on its underlay, or there is no underlay. -/
def TunnelHome (tunnel : TunnelObj) (s : Fib) : Prop :=
  (∃ rif, s.rif tunnel.underlay_rif = some rif ∧ rif.vrf_id = tunnel.underlay_vrf) ∨
    s.vrf tunnel.underlay_vrf = none

/-- The next hop with a key gets one more reference: it was there, or it comes. -/
inductive SetupDoes (env : Env) (node : Nh) (s t : Fib) : Prop where
  | found (p : Ptr) (hp : s.NhLive p) (hkey : (s.nh p).key = node.key) (ht : t = s.modNh p Nh.incrRef)
  | made (p : Ptr) (u : Fib) (hnew : ∀ q, s.NhLive q → (s.nh q).key ≠ node.key)
      (hadded : NhAdded p (nextHopNode env node) s u)
      (htunnels : u.tunnels = s.tunnelsOf node (Tunnel.addEncapNh p)) (ht : t = u.modNh p Nh.incrRef)

theorem tunnelEncapNhSetup_does (env) (remote_ip) (tunnel_id) {tunnel}
    {s} (h : EncapFib s) (hhome : TunnelHome tunnel s) :
    let x := tunnelEncapNhSetup env remote_ip tunnel_id tunnel s
    (x.1 ≠ .success ∧ NhsKept s x.2 ∧ x.2.tunnels = s.tunnels) ∨
    (x.1 = .success ∧ SetupDoes env (encapNhNode remote_ip tunnel_id tunnel) s x.2) := by
  intro x
  have hx : tunnelEncapNhSetup env remote_ip tunnel_id tunnel s = x := rfl
  clear_value x
  unfold tunnelEncapNhSetup at hx
  cases hget : ipNextHopNodeGet (encapNhKey remote_ip tunnel) s with
  | some p =>
    rw [hget] at hx
    subst hx
    obtain ⟨hp, hkey⟩ := h.nodeGet hget
    exact .inr ⟨rfl, .found p hp hkey rfl⟩
  | none =>
    rw [hget] at hx
    dsimp only at hx
    have hcreate := ipNextHopCreate_added env (encapNhNode remote_ip tunnel_id tunnel) h.toNodePlaces hget
      rfl hhome
    generalize ipNextHopCreate _ _ s = made at hx hcreate
    obtain ⟨y, u⟩ := made
    rcases hcreate with ⟨status, hstatus, hfail, hkept, htunnels⟩ | ⟨p, hp, hadded, htunnels⟩
    · dsimp only at hstatus
      subst hstatus
      subst hx
      exact .inl ⟨hfail, hkept, htunnels⟩
    dsimp only at hp
    subst hp
    subst hx
    refine .inr ⟨rfl, .made p u (fun q hq hkey => ?_) hadded htunnels rfl⟩
    rw [show encapNhKey remote_ip tunnel = (s.nh q).key from hkey.symm, h.nodeGet_self hq] at hget
    cases hget

/-! ## A reference is given back -/

/-- The next hop with a key loses a reference: others stay, or it goes with the last. -/
inductive TeardownDoes (env : Env) (key : NhKey) (s t : Fib) : Prop where
  | held (p : Ptr) (hp : s.NhLive p) (hkey : (s.nh p).key = key) (hrefs : (s.nh p).ref_count > 1)
      (ht : t = s.modNh p Nh.decrRef)
  | gone (p : Ptr) (hp : s.NhLive p) (hkey : (s.nh p).key = key) (hrefs : (s.nh p).ref_count = 1)
      (hdropped : NhDropped p s t) (htunnels : t.tunnels = s.tunnelsOf (s.nh p) (Tunnel.removeEncapNh env p))

theorem tunnelEncapNhTeardown_does (env) (remote_ip) (tunnel) {s}
    (h : EncapFib s) (hrefs : encapRefs (encapNhKey remote_ip tunnel) s ≠ 0) :
    let x := tunnelEncapNhTeardown env remote_ip tunnel s
    (x.1 ≠ .success ∧ encapRefs (encapNhKey remote_ip tunnel) s = 1 ∧
      (∃ nh, env.status (.nexthopRemove nh) ≠ .success) ∧ NhsKept s x.2 ∧ x.2.tunnels = s.tunnels) ∨
    (x.1 = .success ∧ TeardownDoes env (encapNhKey remote_ip tunnel) s x.2) := by
  intro x
  have hx : tunnelEncapNhTeardown env remote_ip tunnel s = x := rfl
  clear_value x
  unfold tunnelEncapNhTeardown at hx
  cases hget : ipNextHopNodeGet (encapNhKey remote_ip tunnel) s with
  | none =>
    unfold encapRefs at hrefs
    rw [hget] at hrefs
    exact absurd rfl hrefs
  | some p =>
    rw [hget] at hx
    dsimp only at hx
    obtain ⟨hp, hkey⟩ := h.nodeGet hget
    have hcount : encapRefs (encapNhKey remote_ip tunnel) s = (s.nh p).ref_count := by
      rw [← hkey, encapRefs_of_live h.toNodePlaces hp]
    have hread : ((s.modNh p Nh.decrRef).nh p) = (s.nh p).decrRef := by
      rw [nh_modNh hp, if_pos rfl]
    have hdecr : ((s.modNh p Nh.decrRef).nh p).ref_count = (s.nh p).ref_count - 1 := by
      rw [hread]
      rfl
    rw [hdecr] at hx
    split at hx
    next hmore =>
      subst hx
      exact .inr ⟨rfl, .held p hp hkey (by omega) rfl⟩
    rename_i hlast
    have hone : (s.nh p).ref_count = 1 := by
      rw [hcount] at hrefs
      omega
    have hstate := h.modNh hp (f := Nh.decrRef) rfl rfl rfl
    have hp' : (s.modNh p Nh.decrRef).NhLive p := (nhLive_modNh s p p _).mpr hp
    have hothers : ∀ q, q ≠ p → (s.modNh p Nh.decrRef).nh q = s.nh q := fun q hq => nh_modNh_of_ne s _ hq
    have hremove := ipNextHopRemove_dropped env hstate.toNodePlaces hp' (hstate.lone p)
      (by rw [hstate.owned p hp'])
    have hlist : (s.modNh p Nh.decrRef).tunnelsOf ((s.modNh p Nh.decrRef).nh p)
        (Tunnel.removeEncapNh env p) = s.tunnelsOf (s.nh p) (Tunnel.removeEncapNh env p) :=
      tunnelsOf_congr (by rw [hread]; rfl) (by rw [hread]; rfl) rfl
    generalize ipNextHopRemove _ p _ = removed at hx hremove
    rcases hremove with ⟨hfail, hrefused, hkept, htunnels⟩ | ⟨hok, hdropped, htunnels⟩
    · rw [if_pos hfail] at hx
      subst hx
      have hlive : removed.2.NhLive p := (hkept.live p).mpr hp'
      refine .inl ⟨hfail, hcount.trans hone, ⟨_, hrefused⟩, ⟨?_, fun q => ?_, fun q => ?_,
        hkept.homes, hkept.vrfs, hkept.ids⟩, htunnels⟩
      · exact hkept.places.of_same (SamePlaces.modNh _ p rfl)
      · rw [nhLive_modNh, hkept.live, nhLive_modNh]
      · rw [nh_modNh hlive]
        have hcore := hkept.nodes q
        split
        next heq =>
          subst heq
          rw [hread] at hcore
          show (removed.2.nh q).core.incrRef = _
          rw [hcore]
          show { (s.nh q).core with ref_count := (s.nh q).ref_count - 1 + 1 } = (s.nh q).core
          rw [hone]
          show { (s.nh q).core with ref_count := 1 } = (s.nh q).core
          rw [← hone]
          rfl
        next hne => rw [hcore, hothers q hne]
    · rw [if_ok hok] at hx
      subst hx
      refine .inr ⟨hok, .gone p hp hkey hone ⟨hdropped.places, fun q => ?_, fun q hq => ?_,
        hdropped.homes, hdropped.vrfs, hdropped.ids⟩ (htunnels.trans hlist)⟩
      · rw [hdropped.live, nhLive_modNh]
      · rw [hdropped.others q hq, hothers q hq]

/-! ## What it does to the references -/

section Effect

variable {env : Env} {node : Nh} {key : NhKey} {s t : Fib}

theorem SetupDoes.fib (h : SetupDoes env node s t) (hs : EncapFib s)
    (hnode : node.owner_flag.neighbor = false) : EncapFib t := by
  cases h with
  | found p hp _ ht =>
    subst ht
    exact hs.modNh hp rfl rfl rfl
  | made p u _ hadded _ ht =>
    subst ht
    have howned : (nextHopNode env node).owner_flag = ⟨true, false⟩ := by
      rw [← hnode]
      rfl
    exact (hs.added hadded howned rfl).modNh ((hadded.live p).mpr (.inl rfl)) rfl rfl rfl

theorem SetupDoes.refs (h : SetupDoes env node s t) (hs : EncapFib s) (hnode : node.ref_count = 0)
    (key) : encapRefs key t = encapRefs key s + if key = node.key then 1 else 0 := by
  cases h with
  | found p hp hkey ht =>
    subst ht
    rw [encapRefs_modNh (f := Nh.incrRef) hs.toNodePlaces hp rfl, hkey]
    split
    next heq =>
      rw [heq, ← hkey, encapRefs_of_live hs.toNodePlaces hp]
      rfl
    · rfl
  | made p u hnew hadded _ ht =>
    subst ht
    have hlive : u.NhLive p := (hadded.live p).mpr (.inl rfl)
    have hkey := field_of_core_eq (f := Nh.key) (fun _ => rfl) hadded.node
    have hcount := field_of_core_eq (f := Nh.ref_count) (fun _ => rfl) hadded.node
    change (u.nh p).key = node.key at hkey
    change (u.nh p).ref_count = node.ref_count at hcount
    rw [encapRefs_modNh (f := Nh.incrRef) hadded.places hlive rfl, hkey]
    split
    next heq =>
      rw [heq, encapRefs_of_none hnew hs.toNodePlaces]
      show (u.nh p).ref_count + 1 = 0 + 1
      rw [hcount, hnode]
    next hne => exact (hadded.refs hs.toNodePlaces key).trans (if_neg hne)

theorem SetupDoes.homes (h : SetupDoes env node s t) (r) :
    (t.rif r).map Rif.vrf_id = (s.rif r).map Rif.vrf_id := by
  cases h with
  | found p _ _ ht =>
    subst ht
    rfl
  | made p u _ hadded _ ht =>
    subst ht
    exact hadded.homes r

theorem SetupDoes.vrfs (h : SetupDoes env node s t) (v) : (t.vrf v).isSome = (s.vrf v).isSome := by
  cases h with
  | found p _ _ ht =>
    subst ht
    rfl
  | made p u _ hadded _ ht =>
    subst ht
    exact hadded.vrfs v

theorem TeardownDoes.fib (h : TeardownDoes env key s t) (hs : EncapFib s) : EncapFib t := by
  cases h with
  | held p hp _ _ ht =>
    subst ht
    exact hs.modNh hp rfl rfl rfl
  | gone p _ _ _ hdropped _ => exact hs.dropped hdropped

theorem TeardownDoes.refs (h : TeardownDoes env key s t) (hs : EncapFib s) (k) :
    encapRefs k s = encapRefs k t + if k = key then 1 else 0 := by
  cases h with
  | held p hp hkey hrefs ht =>
    subst ht
    rw [encapRefs_modNh (f := Nh.decrRef) hs.toNodePlaces hp rfl, hkey]
    split
    next heq =>
      rw [heq, ← hkey, encapRefs_of_live hs.toNodePlaces hp]
      show _ = (s.nh p).ref_count - 1 + 1
      omega
    · rfl
  | gone p hp hkey hrefs hdropped _ =>
    rw [hdropped.refs hs.toNodePlaces hp, hkey]
    split
    next heq => rw [heq, ← hkey, encapRefs_of_live hs.toNodePlaces hp, hrefs]
    · rfl

theorem TeardownDoes.homes (h : TeardownDoes env key s t) (r) :
    (t.rif r).map Rif.vrf_id = (s.rif r).map Rif.vrf_id := by
  cases h with
  | held p _ _ _ ht =>
    subst ht
    rfl
  | gone p _ _ _ hdropped _ => exact hdropped.homes r

theorem TeardownDoes.vrfs (h : TeardownDoes env key s t) (v) :
    (t.vrf v).isSome = (s.vrf v).isSome := by
  cases h with
  | held p _ _ _ ht =>
    subst ht
    rfl
  | gone p _ _ _ hdropped _ => exact hdropped.vrfs v

end Effect

structure RefsKept (s t : Fib) : Prop where
  fib : EncapFib t
  refs : ∀ key, encapRefs key t = encapRefs key s
  homes : ∀ r, (t.rif r).map Rif.vrf_id = (s.rif r).map Rif.vrf_id
  vrfs : ∀ v, (t.vrf v).isSome = (s.vrf v).isSome

theorem RefsKept.refl {s} (h : EncapFib s) : RefsKept s s :=
  ⟨h, fun _ => rfl, fun _ => rfl, fun _ => rfl⟩

theorem NhsKept.refsKept {s t} (h : NhsKept s t) (hs : EncapFib s) : RefsKept s t :=
  ⟨hs.kept h, h.refs hs.toNodePlaces, h.homes, h.vrfs⟩

theorem RefsKept.null {s t} (h : RefsKept s t) (hs : s.vrf .null = none) : t.vrf .null = none := by
  have hsome := h.vrfs .null
  rw [hs] at hsome
  exact Option.isNone_iff_eq_none.mp (by rw [← Option.not_isSome, hsome]; rfl)

end OpxSai
