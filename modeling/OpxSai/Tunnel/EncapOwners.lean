import OpxSai.Tunnel.EncapRefs

/-!
# The owners of next hops

A next hop is there for the termination entries that have references to it, and for the user that created
it. The user has its id, and the id tree has the node under this id; a tunnel has its encap next hops on a
list.

* `EncapOwned` — each next hop has an owner, and is on the list of its tunnel.
-/

namespace OpxSai

open Fib
variable {n : Nh} {q : Ptr} {tunnel_id : Oid} {env : Env} {attr_list : List NextHopAttr}

def Fib.EncapListed (s : Fib) (tunnel_id : Oid) (p : Ptr) : Prop :=
  ∃ tunnel, s.tunnels tunnel_id = some tunnel ∧ p ∈ tunnel.tunnel_encap_nh_list

/-- **Each next hop has an owner**, but for one that is on its way. The users are given with the ids and the
keys of their next hops. -/
structure EncapOwned (but : Option Ptr) (users : List (Oid × NhKey)) (s : Fib) : Prop where
  owned : ∀ p, s.NhLive p →
    (s.nh p).ref_count ≠ 0 ∨ (∃ id, (id, (s.nh p).key) ∈ users) ∨ but = some p
  held : ∀ x ∈ users, ∃ p, s.NhLive p ∧ (s.nh p).key = x.2
  distinct : (users.map Prod.snd).Nodup
  ids : ∀ id p, s.nh_id_tree id = some p →
    s.NhLive p ∧ (s.nh p).next_hop_id = id ∧ (id, (s.nh p).key) ∈ users
  named : ∀ p, s.NhLive p → (s.nh p).isTunnelEncap = true → s.EncapListed (s.nh p).tunnel_id p

structure SameOwned (n m : Nh) : Prop where
  key : n.key = m.key
  refs : n.ref_count = m.ref_count
  id : n.next_hop_id = m.next_hop_id
  tunnel : n.tunnel_id = m.tunnel_id

theorem SameOwned.of_core {m : Nh} (h : n.core = m.core) : SameOwned n m :=
  ⟨field_of_core_eq (fun _ => rfl) h, field_of_core_eq (fun _ => rfl) h, field_of_core_eq (fun _ => rfl) h,
    field_of_core_eq (fun _ => rfl) h⟩

section Owned

variable {but : Option Ptr} {users : List (Oid × NhKey)} {s t u : Fib} {p : Ptr} {node : Nh}

theorem EncapOwned.kept (h : EncapOwned but users s) (hkept : NhsKept s t)
    (hlists : ∀ q tunnel_id, s.EncapListed tunnel_id q → t.EncapListed tunnel_id q) :
    EncapOwned but users t := by
  have hsame : ∀ q, SameOwned (t.nh q) (s.nh q) := fun q => .of_core (hkept.nodes q)
  refine ⟨fun q hq => ?_, fun x hx => ?_, h.distinct, fun id q hid => ?_, fun q hq hencap => ?_⟩
  · rw [(hsame q).refs, (hsame q).key]
    exact h.owned q ((hkept.live q).mp hq)
  · obtain ⟨q, hq, hk⟩ := h.held x hx
    exact ⟨q, (hkept.live q).mpr hq, (hsame q).key.trans hk⟩
  · rw [hkept.ids] at hid
    obtain ⟨hq, hnh, hmem⟩ := h.ids id q hid
    exact ⟨(hkept.live q).mpr hq, (hsame q).id.trans hnh, (hsame q).key.symm ▸ hmem⟩
  · rw [(hsame q).tunnel]
    rw [Nh.isTunnelEncap, (hsame q).key] at hencap
    exact hlists q _ (h.named q ((hkept.live q).mp hq) hencap)

theorem EncapOwned.recount {but' : Option Ptr} (h : EncapOwned but users s) (hp : s.NhLive p) {f : Nh → Nh}
    (hf : ∀ n, f n = { n with ref_count := (f n).ref_count })
    (hbut : ∀ q, q ≠ p → but = some q → but' = some q)
    (hown : (f (s.nh p)).ref_count ≠ 0 ∨ but' = some p) : EncapOwned but' users (s.modNh p f) := by
  have hread : ∀ q, (s.modNh p f).nh q = { s.nh q with ref_count := ((s.modNh p f).nh q).ref_count } := by
    intro q
    rw [nh_modNh hp]
    split
    next heq =>
      rw [heq]
      exact hf (s.nh p)
    · rfl
  have hkey : ∀ q, ((s.modNh p f).nh q).key = (s.nh q).key := fun q => by rw [hread]
  refine ⟨fun q hq => ?_, fun x hx => ?_, h.distinct, fun id q hid => ?_, fun q hq hencap => ?_⟩
  · rw [hkey]
    by_cases heq : q = p
    · subst heq
      rw [nh_modNh hp, if_pos rfl]
      exact hown.imp_right .inr
    · rw [nh_modNh hp, if_neg heq]
      exact (h.owned q ((nhLive_modNh ..).mp hq)).imp_right (Or.imp_right (hbut q heq))
  · obtain ⟨q, hq, hk⟩ := h.held x hx
    exact ⟨q, (nhLive_modNh ..).mpr hq, (hkey q).trans hk⟩
  · obtain ⟨hq, hnh, hmem⟩ := h.ids id q hid
    refine ⟨(nhLive_modNh ..).mpr hq, ?_, (hkey q).symm ▸ hmem⟩
    rw [hread]
    exact hnh
  · have htid : ((s.modNh p f).nh q).tunnel_id = (s.nh q).tunnel_id := by rw [hread]
    rw [htid]
    rw [Nh.isTunnelEncap, hkey] at hencap
    exact h.named q ((nhLive_modNh ..).mp hq) hencap

theorem encapListed_add (htunnels : t.tunnels = s.tunnelsOf n (Tunnel.addEncapNh p))
    (hq : s.EncapListed tunnel_id q) : t.EncapListed tunnel_id q := by
  obtain ⟨tunnel, htunnel, hmem⟩ := hq
  unfold EncapListed
  rw [htunnels, tunnelsOf]
  split
  · show ∃ tunnel', (if tunnel_id = n.tunnel_id then _ else s.tunnels tunnel_id) = some tunnel' ∧ _
    split
    · exact ⟨tunnel.addEncapNh p, by rw [htunnel]; rfl, List.mem_append_left _ hmem⟩
    · exact ⟨tunnel, htunnel, hmem⟩
  · exact ⟨tunnel, htunnel, hmem⟩

theorem encapListed_remove (htunnels : t.tunnels = s.tunnelsOf n (Tunnel.removeEncapNh env p))
    (hn : n.isTunnelEncap = true → s.EncapListed n.tunnel_id p) (hne : q ≠ p)
    (hq : s.EncapListed tunnel_id q) : t.EncapListed tunnel_id q := by
  obtain ⟨tunnel, htunnel, hmem⟩ := hq
  unfold EncapListed
  rw [htunnels, tunnelsOf]
  split
  next hencap =>
    show ∃ tunnel', (if tunnel_id = n.tunnel_id then _ else s.tunnels tunnel_id) = some tunnel' ∧ _
    split
    next heq =>
      refine ⟨tunnel.removeEncapNh env p, by rw [htunnel]; rfl, ?_⟩
      obtain ⟨tunnel', htunnel', hin⟩ := hn hencap
      rw [← heq, htunnel] at htunnel'
      cases htunnel'
      show q ∈ dllRemove env tunnel.tunnel_encap_nh_list p
      rw [dllRemove, if_pos hin]
      exact (List.mem_erase_of_ne hne).mpr hmem
    · exact ⟨tunnel, htunnel, hmem⟩
  · exact ⟨tunnel, htunnel, hmem⟩

theorem EncapOwned.added (h : EncapOwned none users s) (hadded : NhAdded p node s t)
    (htunnels : t.tunnels = s.tunnelsOf node (Tunnel.addEncapNh p))
    (hlive : node.isTunnelEncap = true → (s.tunnels node.tunnel_id).isSome = true) :
    EncapOwned (some p) users t := by
  have hfresh : ∀ q, s.NhLive q → q ≠ p := by
    rintro q hq rfl
    exact hadded.fresh hq
  have hsame : ∀ q, q ≠ p → SameOwned (t.nh q) (s.nh q) := fun q hq => .of_core (hadded.others q hq)
  refine ⟨fun q hq => ?_, fun x hx => ?_, h.distinct, fun id q hid => ?_, fun q hq hencap => ?_⟩
  · rcases (hadded.live q).mp hq with rfl | hq
    · exact .inr (.inr rfl)
    have hne := hfresh q hq
    rw [(hsame q hne).refs, (hsame q hne).key]
    exact (h.owned q hq).imp_right (Or.imp_right fun hnone => nomatch hnone)
  · obtain ⟨q, hq, hk⟩ := h.held x hx
    exact ⟨q, (hadded.live q).mpr (.inr hq), (hsame q (hfresh q hq)).key.trans hk⟩
  · rw [hadded.ids] at hid
    obtain ⟨hq, hnh, hmem⟩ := h.ids id q hid
    have hne := hfresh q hq
    exact ⟨(hadded.live q).mpr (.inr hq), (hsame q hne).id.trans hnh, (hsame q hne).key.symm ▸ hmem⟩
  · rcases (hadded.live q).mp hq with rfl | hq
    · have hnode : SameOwned (t.nh q) node := .of_core hadded.node
      have hencap : node.isTunnelEncap = true := by
        rw [Nh.isTunnelEncap, ← hnode.key]
        exact hencap
      obtain ⟨tunnel, htunnel⟩ := Option.isSome_iff_exists.mp (hlive hencap)
      refine ⟨tunnel.addEncapNh q, ?_, List.mem_append_right _ (List.mem_singleton_self q)⟩
      rw [hnode.tunnel, htunnels, tunnelsOf, if_pos hencap]
      show (if node.tunnel_id = node.tunnel_id then _ else _) = _
      rw [if_pos rfl, htunnel]
      rfl
    · have hne := hfresh q hq
      rw [(hsame q hne).tunnel]
      rw [Nh.isTunnelEncap, (hsame q hne).key] at hencap
      exact encapListed_add htunnels (h.named q hq hencap)

theorem EncapOwned.dropped (h : EncapOwned but users s) (hp : s.NhLive p)
    (hdropped : NhDropped p s t) (htunnels : t.tunnels = s.tunnelsOf (s.nh p) (Tunnel.removeEncapNh env p))
    (hbut : ∀ q, but = some q → q = p) (hfree : ∀ id, (id, (s.nh p).key) ∉ users) :
    EncapOwned none users t := by
  have hsame : ∀ q, q ≠ p → SameOwned (t.nh q) (s.nh q) := fun q hq => .of_core (hdropped.others q hq)
  refine ⟨fun q hq => ?_, fun x hx => ?_, h.distinct, fun id q hid => ?_, fun q hq hencap => ?_⟩
  · obtain ⟨hne, hq⟩ := (hdropped.live q).mp hq
    rw [(hsame q hne).refs, (hsame q hne).key]
    exact (h.owned q hq).imp_right (Or.imp_right fun heq => absurd (hbut q heq) hne)
  · obtain ⟨q, hq, hk⟩ := h.held x hx
    have hne : q ≠ p := by
      rintro rfl
      exact hfree x.1 (hk.symm ▸ hx)
    exact ⟨q, (hdropped.live q).mpr ⟨hne, hq⟩, (hsame q hne).key.trans hk⟩
  · rw [hdropped.ids] at hid
    obtain ⟨hq, hnh, hmem⟩ := h.ids id q hid
    have hne : q ≠ p := by
      rintro rfl
      exact hfree id hmem
    exact ⟨(hdropped.live q).mpr ⟨hne, hq⟩, (hsame q hne).id.trans hnh, (hsame q hne).key.symm ▸ hmem⟩
  · obtain ⟨hne, hq⟩ := (hdropped.live q).mp hq
    rw [(hsame q hne).tunnel]
    rw [Nh.isTunnelEncap, (hsame q hne).key] at hencap
    exact encapListed_remove htunnels (h.named p hp) hne (h.named q hq hencap)

end Owned

/-! ## Termination entries -/

section Entries

variable {node : Nh} {key : NhKey} {users : List (Oid × NhKey)} {s t : Fib}

theorem SetupDoes.owned (h : SetupDoes env node s t) (hs : EncapOwned none users s)
    (hlive : node.isTunnelEncap = true → (s.tunnels node.tunnel_id).isSome = true) :
    EncapOwned none users t := by
  cases h with
  | found p hp _ ht =>
    subst ht
    exact hs.recount hp (f := Nh.incrRef) (fun _ => rfl) (fun _ _ h => h) (.inl (Nat.succ_ne_zero _))
  | made p u _ hadded htunnels ht =>
    subst ht
    have hcame := hs.added hadded (htunnels.trans (tunnelsOf_congr rfl rfl rfl)) hlive
    refine hcame.recount ((hadded.live p).mpr (.inl rfl)) (f := Nh.incrRef) (fun _ => rfl) (fun q hq h => ?_)
      (.inl (Nat.succ_ne_zero _))
    exact absurd (Option.some.inj h).symm hq

theorem TeardownDoes.owned (h : TeardownDoes env key s t) (hs : EncapOwned none users s) (hfib : EncapFib s)
    (hfree : encapRefs key s = 1 → ∀ id, (id, key) ∉ users) : EncapOwned none users t := by
  cases h with
  | held p hp _ hrefs ht =>
    subst ht
    refine hs.recount hp (f := Nh.decrRef) (fun _ => rfl) (fun _ _ h => h) (.inl ?_)
    show (s.nh p).ref_count - 1 ≠ 0
    omega
  | gone p hp hkey hrefs hdropped htunnels =>
    subst hkey
    refine hs.dropped hp hdropped htunnels (fun q h => nomatch h) (hfree ?_)
    rw [encapRefs_of_live hfib.toNodePlaces hp, hrefs]

end Entries

/-! ## Users -/

section Users

variable {but : Option Ptr} {users : List (Oid × NhKey)} {s t u : Fib} {p : Ptr}

theorem EncapFib.setIds (h : EncapFib s) (ids : Oid → Option Ptr) : EncapFib { s with nh_id_tree := ids } :=
  ⟨⟨h.vrfs, h.node, h.entry, h.home, h.rifs⟩, h.owned, h.lone⟩

theorem RefsKept.setIds (h : RefsKept s t) (ids : Oid → Option Ptr) :
    RefsKept s { t with nh_id_tree := ids } :=
  ⟨h.fib.setIds ids, h.refs, h.homes, h.vrfs⟩

theorem tunnelsOf_isSome (n : Nh) (f : Tunnel → Tunnel) (tunnel_id : Oid) :
    (s.tunnelsOf n f tunnel_id).isSome = (s.tunnels tunnel_id).isSome := by
  unfold tunnelsOf
  split
  · show (if tunnel_id = n.tunnel_id then _ else s.tunnels tunnel_id : Option Tunnel).isSome = _
    split
    · exact Option.isSome_map
    · rfl
  · rfl

theorem EncapOwned.insertId (h : EncapOwned but users s) (hp : s.NhLive p)
    (hmem : ((s.nh p).next_hop_id, (s.nh p).key) ∈ users) :
    EncapOwned but users { s with nh_id_tree := fun id =>
      if id = (s.nh p).next_hop_id then some p else s.nh_id_tree id } := by
  refine ⟨h.owned, h.held, h.distinct, fun id q hid => ?_, h.named⟩
  change (if id = (s.nh p).next_hop_id then some p else s.nh_id_tree id) = some q at hid
  split at hid
  next heq =>
    cases hid
    subst heq
    exact ⟨hp, rfl, hmem⟩
  · exact h.ids id q hid

theorem EncapOwned.eraseId (h : EncapOwned but users s) (next_hop_id : Oid) :
    EncapOwned but users { s with nh_id_tree := fun id =>
      if id = next_hop_id then none else s.nh_id_tree id } := by
  refine ⟨h.owned, h.held, h.distinct, fun id q hid => ?_, h.named⟩
  change (if id = next_hop_id then none else s.nh_id_tree id) = some q at hid
  split at hid
  · cases hid
  · exact h.ids id q hid

theorem EncapOwned.adopt (h : EncapOwned (some p) users s) (hp : s.NhLive p)
    (hnew : ∀ x ∈ users, x.2 ≠ (s.nh p).key) (id : Oid) : EncapOwned none ((id, (s.nh p).key) :: users) s := by
  refine ⟨fun q hq => ?_, fun x hx => ?_, ?_, fun id' q hid => ?_, h.named⟩
  · rcases h.owned q hq with hrefs | ⟨id', hmem⟩ | hbut
    · exact .inl hrefs
    · exact .inr (.inl ⟨id', List.mem_cons_of_mem _ hmem⟩)
    · cases hbut
      exact .inr (.inl ⟨id, List.mem_cons_self⟩)
  · rcases List.mem_cons.mp hx with rfl | hx
    · exact ⟨p, hp, rfl⟩
    · exact h.held x hx
  · rw [List.map_cons, List.nodup_cons]
    refine ⟨fun hmem => ?_, h.distinct⟩
    obtain ⟨x, hx, heq⟩ := List.mem_map.mp hmem
    exact hnew x hx heq
  · obtain ⟨hq, hnh, hmem⟩ := h.ids id' q hid
    exact ⟨hq, hnh, List.mem_cons_of_mem _ hmem⟩

theorem EncapOwned.disown (h : EncapOwned none users s) (hs : NodePlaces s) (hp : s.NhLive p) {id : Oid}
    (hmem : (id, (s.nh p).key) ∈ users) (hid : s.nh_id_tree id = none) :
    EncapOwned (some p) (users.erase (id, (s.nh p).key)) s ∧
      ∀ id', (id', (s.nh p).key) ∉ users.erase (id, (s.nh p).key) := by
  have hgone : ∀ x ∈ users.erase (id, (s.nh p).key), x.2 ≠ (s.nh p).key := by
    have hperm := (List.perm_cons_erase hmem).map Prod.snd
    have hnodup := hperm.nodup_iff.mp h.distinct
    rw [List.map_cons, List.nodup_cons] at hnodup
    exact fun x hx heq => hnodup.1 (List.mem_map.mpr ⟨x, hx, heq⟩)
  refine ⟨⟨fun q hq => ?_, fun x hx => h.held x (List.mem_of_mem_erase hx), ?_, fun id' q hid' => ?_, h.named⟩,
    fun id' hmem' => hgone _ hmem' rfl⟩
  · by_cases hqp : q = p
    · rw [hqp]
      exact .inr (.inr rfl)
    have hkey : (s.nh q).key ≠ (s.nh p).key := by
      intro heq
      have hself := hs.nodeGet_self hq
      rw [heq, hs.nodeGet_self hp] at hself
      exact hqp (Option.some.inj hself).symm
    rcases h.owned q hq with hrefs | ⟨id', hmem'⟩ | hbut
    · exact .inl hrefs
    · refine .inr (.inl ⟨id', (List.mem_erase_of_ne fun heq => hkey ?_).mpr hmem'⟩)
      exact congrArg Prod.snd heq
    · cases hbut
  · exact h.distinct.sublist ((List.erase_sublist).map Prod.snd)
  · obtain ⟨hq, hnh, hmem'⟩ := h.ids id' q hid'
    refine ⟨hq, hnh, (List.mem_erase_of_ne fun heq => ?_).mpr hmem'⟩
    have hsame : id' = id := congrArg Prod.fst heq
    rw [hsame, hid] at hid'
    cases hid'

theorem nextHopInfoFill_tunnel {nh_info : Nh}
    (h : nextHopInfoFill env attr_list nextHopDefaultAttr s = .ok nh_info)
    (hencap : nh_info.isTunnelEncap = true) :
    env.status (.tunnelObjectIdValidate nh_info.tunnel_id) = .success := by
  unfold nextHopInfoFill at h
  split at h
  · cases h
  split at h
  · cases h
  rename_i info hparse
  split at h
  · cases h
  split at h
  · cases h
  split at h
  · split at h
    · cases h
    rename_i index oid _
    unfold encapNextHopTunnelIdSet at h
    split at h
    · cases h
    split at h
    · cases h
    rename_i hvalid
    cases h
    exact not_not.mp hvalid
  next hplain =>
    cases h
    exact absurd (of_decide_eq_true hencap) hplain

theorem nextHopCreate_owned (hfib : EncapFib s) (h : EncapOwned none users s)
    (hclean : NextHopCreateClean env s)
    (hvalid : ∀ oid, env.status (.tunnelObjectIdValidate oid) = .success → (s.tunnels oid).isSome = true) :
    let x := nextHopCreate env attr_list s
    RefsKept s x.1.2 ∧ (∀ t, (x.1.2.tunnels t).isSome = (s.tunnels t).isSome) ∧
      ((x.2 = none ∧ EncapOwned none users x.1.2) ∨ ∃ id nh_info, x.2 = some id ∧
        nextHopInfoFill env attr_list nextHopDefaultAttr s = .ok nh_info ∧
          EncapOwned none ((id, nh_info.key) :: users) x.1.2) := by
  intro x
  have hx : nextHopCreate env attr_list s = x := rfl
  clear_value x
  unfold nextHopCreate at hx
  cases hfill : nextHopInfoFill env attr_list nextHopDefaultAttr s with
  | error status =>
    rw [hfill] at hx
    subst hx
    exact ⟨.refl hfib, fun _ => rfl, .inl ⟨rfl, h⟩⟩
  | ok nh_info =>
    rw [hfill] at hx
    dsimp only at hx
    have hinfo := nextHopInfoFill_ok hfill
    cases hget : ipNextHopNodeGet nh_info.key s with
    | some q =>
      -- the node has the bit of next hops
      obtain ⟨hq, -⟩ := hfib.nodeGet hget
      have hrefused : ipNextHopCreate env nh_info s = (.error .itemAlreadyExists, s) := by
        unfold ipNextHopCreate nextHopNodeObtain
        rw [hget]
        dsimp only
        rw [hfib.owned q hq]
        rfl
      rw [hrefused] at hx
      subst hx
      exact ⟨.refl hfib, fun _ => rfl, .inl ⟨rfl, h⟩⟩
    | none =>
      have hadd := ipNextHopCreate_added env _ hfib.toNodePlaces hget
        (by rw [hinfo.owner_flag]) (.inl (hfib.home_of_vrfForRif hinfo.vrf))
      generalize ipNextHopCreate _ _ s = made at hx hadd
      obtain ⟨y, u⟩ := made
      rcases hadd with ⟨status, hstatus, -, hkept, htunnels⟩ | ⟨p, hp, hadded, htunnels⟩
      · dsimp only at hstatus
        subst hstatus
        subst hx
        refine ⟨hkept.refsKept hfib, fun t => by rw [htunnels], .inl ⟨rfl, h.kept hkept fun q tunnel_id => ?_⟩⟩
        unfold EncapListed
        rw [htunnels]
        exact id
      dsimp only at hp
      subst hp
      dsimp only at hx htunnels
      have hlive : u.NhLive p := (hadded.live p).mpr (.inl rfl)
      have hsame : SameOwned (u.nh p) (nextHopNode env nh_info) := .of_core hadded.node
      have hkey : (u.nh p).key = nh_info.key := hsame.key
      have hnhid : (u.nh p).next_hop_id = uoidCreate .nextHop env.hw_id := hsame.id
      have hcount : (nextHopNode env nh_info).ref_count = 0 := by
        show nh_info.ref_count = 0
        rw [hinfo.fields]
        rfl
      have hflags : (nextHopNode env nh_info).owner_flag = ⟨true, false⟩ := by
        show ({ nh_info.owner_flag with next_hop := true } : OwnerFlag) = _
        rw [hinfo.owner_flag]
      have hrefs : RefsKept s u := by
        refine ⟨hfib.added hadded hflags rfl, fun key => ?_, hadded.homes, hadded.vrfs⟩
        rw [hadded.refs hfib.toNodePlaces, hcount]
        split
        next heq =>
          rw [heq]
          show 0 = encapRefs nh_info.key s
          unfold encapRefs
          rw [hget]
          rfl
        · rfl
      have hcame := h.added hadded (htunnels.trans (tunnelsOf_congr rfl rfl rfl)) fun hencap =>
        hvalid nh_info.tunnel_id (nextHopInfoFill_tunnel hfill hencap)
      have hpresent : ∀ t, (u.tunnels t).isSome = (s.tunnels t).isSome := fun t => by
        rw [htunnels, tunnelsOf_isSome]
      unfold nhIdTreeInsert at hx
      dsimp only at hx
      split at hx
      · rw [if_pos rfl] at hx
        subst hx
        refine ⟨hrefs.setIds _, hpresent, .inr ⟨(u.nh p).next_hop_id, nh_info, rfl, rfl, ?_⟩⟩
        have hadopt := hcame.adopt hlive (fun x hx heq => ?_) (u.nh p).next_hop_id
        · rw [← hkey]
          exact hadopt.insertId hlive List.mem_cons_self
        · obtain ⟨q, hq, hk⟩ := h.held x hx
          have hself := hfib.nodeGet_self hq
          rw [hk, heq, hkey, hget] at hself
          cases hself
      next htaken =>
        rw [if_neg (by simp)] at hx
        have hnpu : ∀ nh, env.status (.nexthopRemove nh) = .success := by
          refine hclean.resolve_left ?_
          rintro ⟨hnone, havail⟩
          rw [hnhid, hadded.ids, hnone, havail] at htaken
          exact htaken rfl
        have hremove := ipNextHopRemove_dropped env hadded.places hlive (hrefs.fib.lone p)
          (by rw [hrefs.fib.owned p hlive])
        generalize ipNextHopRemove _ p u = removed at hx hremove
        rcases hremove with ⟨-, hrefused, -, -⟩ | ⟨-, hdropped, hgone⟩
        · exact absurd (hnpu _) hrefused
        subst hx
        refine ⟨(hadded.dropped hdropped).refsKept hfib, fun t => ?_, .inl ⟨rfl, ?_⟩⟩
        · rw [hgone, tunnelsOf_isSome, hpresent]
        · refine hcame.dropped hlive hdropped hgone (fun q heq => (Option.some.inj heq).symm) fun id hmem => ?_
          obtain ⟨q, hq, hk⟩ := h.held _ hmem
          have hself := hfib.nodeGet_self hq
          rw [hk, hkey, hget] at hself
          cases hself

theorem nextHopRemove_owned (hfib : EncapFib s) (h : EncapOwned none users s) (next_hop_id : Oid) :
    let x := nextHopRemove env next_hop_id s
    RefsKept s x.2 ∧ (∀ t, (x.2.tunnels t).isSome = (s.tunnels t).isSome) ∧
      ((x.1 ≠ .success ∧ EncapOwned none users x.2) ∨ ∃ p, x.1 = .success ∧ s.nh_id_tree next_hop_id = some p ∧
        EncapOwned none (users.erase (next_hop_id, (s.nh p).key)) x.2) := by
  intro x
  have hx : nextHopRemove env next_hop_id s = x := rfl
  clear_value x
  have hsame : ∀ {status : Status}, status ≠ .success → (status, s) = x →
      RefsKept s x.2 ∧ (∀ t, (x.2.tunnels t).isSome = (s.tunnels t).isSome) ∧
        ((x.1 ≠ .success ∧ EncapOwned none users x.2) ∨ ∃ p, x.1 = .success ∧
          s.nh_id_tree next_hop_id = some p ∧ EncapOwned none (users.erase (next_hop_id, (s.nh p).key)) x.2) := by
    rintro status hfail rfl
    exact ⟨.refl hfib, fun _ => rfl, .inl ⟨hfail, h⟩⟩
  unfold nextHopRemove at hx
  split at hx
  · exact hsame (by simp) hx
  split at hx
  · exact hsame (by simp) hx
  rename_i p hid
  split at hx
  · exact hsame (by simp) hx
  split at hx
  · exact hsame (by simp) hx
  rename_i hcount
  have hcount := not_not.mp hcount
  obtain ⟨hp, hnhid, hmem⟩ := h.ids next_hop_id p hid
  simp only [nextHopRemoveNode, nhIdTreeRemove, hnhid, hid, if_true, ne_eq, not_true_eq_false, if_false] at hx
  have hless := h.eraseId next_hop_id
  have hfib' := hfib.setIds fun id => if id = next_hop_id then none else s.nh_id_tree id
  have hremove := @ipNextHopRemove_dropped _ p env hfib'.toNodePlaces hp (hfib.lone p)
    (by rw [hfib'.owned p hp])
  generalize ipNextHopRemove _ p _ = removed at hx hremove
  rcases hremove with ⟨hfail, -, hkept, htunnels⟩ | ⟨hok, hdropped, htunnels⟩
  · -- the NPU keeps the next hop, and the id tree may take it back
    rw [if_neg hfail] at hx
    subst hx
    have hstays : EncapOwned none users removed.2 := hless.kept hkept fun q tunnel_id => by
      unfold EncapListed
      rw [htunnels]
      exact id
    have hrefs : RefsKept s removed.2 := by
      have hback := hkept.refsKept hfib'
      exact ⟨hback.fib, hback.refs, hback.homes, hback.vrfs⟩
    have hsame : SameOwned (removed.2.nh p) (s.nh p) := .of_core (hkept.nodes p)
    unfold nhIdTreeInsert
    dsimp only
    split
    · refine ⟨hrefs.setIds _, fun t => by rw [htunnels], .inl ⟨hfail, hstays.insertId ((hkept.live p).mpr hp) ?_⟩⟩
      rw [hsame.id, hsame.key, hnhid]
      exact hmem
    · exact ⟨hrefs, fun t => by rw [htunnels], .inl ⟨hfail, hstays⟩⟩
  · rw [if_pos hok] at hx
    subst hx
    obtain ⟨hoff, hfree⟩ := hless.disown hfib'.toNodePlaces hp hmem (if_pos rfl)
    refine ⟨⟨hfib'.dropped hdropped, fun key => ?_, hdropped.homes, hdropped.vrfs⟩, fun t => ?_,
      .inr ⟨p, hok, hid, ?_⟩⟩
    · rw [hdropped.refs hfib'.toNodePlaces hp]
      split
      next heq =>
        rw [heq]
        exact (hcount.symm.trans (encapRefs_of_live hfib.toNodePlaces hp).symm)
      · rfl
    · rw [htunnels, tunnelsOf_isSome]
    · exact hoff.dropped hp hdropped htunnels (fun q heq => (Option.some.inj heq).symm) hfree

end Users

end OpxSai
