import OpxSai.Lib.Index
import OpxSai.Routing.EncapFrame
import OpxSai.Routing.NodeLifetime

/-!
# Routing — the index of neighbors by VLAN and MAC address

`neighbor_mac_tree` indexes the neighbors that are forwarded to over a VLAN. The key
of a neighbor (`macOf`) is worked out from the node as it is at the moment, so a call
that changes the node has to take it off with the old values and put it on with the
new ones. `MacState off` says that the tree is the index of all neighbors but `off`,
which is between the two.

* `neighborMacIndex_of_run` — the tree is the index in every state reached.
-/

namespace OpxSai

open Fib MultiMap

variable {key : MacKey} {nh_info : Nh} {n : Nh} {s : Fib} {p : Ptr} {x : Except Status Ptr}
variable {entry : NeighborEntry}

/-! ## What the index depends on -/

/-- The MAC entry a node belongs on. -/
def macOf (s : Fib) (p : Ptr) : Option MacKey :=
  if (s.nh p).owner_flag.neighbor then
    match neighborMacEntryKey (s.nh p) s with
    | .ok key => key
    | .error _ => none
  else none

structure SameMac (s t : Fib) : Prop extends SamePlaces s t where
  tree : t.neighbor_mac_tree = s.neighbor_mac_tree
  owner : ∀ p, (t.nh p).owner_flag.neighbor = (s.nh p).owner_flag.neighbor
  action : ∀ p, (s.nh p).owner_flag.neighbor = true →
    (t.nh p).packet_action = (s.nh p).packet_action
  mac_addr : ∀ p, (s.nh p).owner_flag.neighbor = true → (t.nh p).mac_addr = (s.nh p).mac_addr

def Rif.attached (r : Rif) : RifType × Oid := (r.type, r.attachment)

theorem neighborMacEntryKey_congr {n'} {t} (hkey : n'.key = n.key)
    (hrif : (t.rif n.key.rif_id).map Rif.attached = (s.rif n.key.rif_id).map Rif.attached)
    (haction : n'.packet_action.isForward = n.packet_action.isForward) (hmac : n'.mac_addr = n.mac_addr) :
    neighborMacEntryKey n' t = neighborMacEntryKey n s := by
  unfold neighborMacEntryKey
  rw [hkey, haction, hmac]
  cases hs : s.rif n.key.rif_id with
  | none =>
    rw [hs, Option.map_none, Option.map_eq_none_iff] at hrif
    rw [hrif]
  | some r =>
    rw [hs, Option.map_some] at hrif
    obtain ⟨r', hr', hatt⟩ := Option.map_eq_some_iff.mp hrif
    have htype : r'.type = r.type := congrArg Prod.fst hatt
    have hid : r'.attachment = r.attachment := congrArg Prod.snd hatt
    rw [hr']
    simp only [htype, hid]

theorem neighborMacEntryKey_eq_some :
    neighborMacEntryKey n s = .ok (some key) ↔
      (∃ rif, s.rif n.key.rif_id = some rif ∧ rif.type = .vlan ∧ rif.attachment = key.vlan_id) ∧
        n.packet_action.isForward = true ∧ n.mac_addr = key.mac_addr := by
  unfold neighborMacEntryKey
  cases hrif : s.rif n.key.rif_id with
  | none => simp
  | some rif =>
    by_cases htype : rif.type = .vlan
    · by_cases hact : n.packet_action.isForward = true
      · simp [htype, hact, MacKey.ext_iff]
      · simp [htype, hact]
    · simp [htype]

theorem macOf_eq_some :
    macOf s p = some key ↔
      (s.nh p).owner_flag.neighbor = true ∧ neighborMacEntryKey (s.nh p) s = .ok (some key) := by
  unfold macOf
  split
  next hflag =>
    split
    next k hk => simp [hflag, hk]
    next status hk => simp [hk]
  next hflag => simp [hflag]

theorem macOf_of_not_neighbor (h : (s.nh p).owner_flag.neighbor = false) :
    macOf s p = none := by
  simp [macOf, h]

theorem macOf_congr {t} {q}
    (howner : (t.nh p).owner_flag.neighbor = (s.nh q).owner_flag.neighbor)
    (hkey : (s.nh q).owner_flag.neighbor = true →
      neighborMacEntryKey (t.nh p) t = neighborMacEntryKey (s.nh q) s) :
    macOf t p = macOf s q := by
  unfold macOf
  rw [howner]
  split
  next hflag => rw [hkey hflag]
  · rfl

namespace SameMac

variable {t u : Fib}

theorem refl (s) : SameMac s s :=
  ⟨⟨rfl, fun _ => rfl, rfl⟩, rfl, fun _ => rfl, fun _ _ => rfl, fun _ _ => rfl⟩

theorem trans (h : SameMac s t) (k : SameMac t u) : SameMac s u where
  nhs := k.nhs.trans h.nhs
  vrfs v := (k.vrfs v).trans (h.vrfs v)
  rifs := k.rifs.trans h.rifs
  tree := k.tree.trans h.tree
  owner p := (k.owner p).trans (h.owner p)
  action p hp := (k.action p ((h.owner p).trans hp)).trans (h.action p hp)
  mac_addr p hp := (k.mac_addr p ((h.owner p).trans hp)).trans (h.mac_addr p hp)

theorem rif (h : SameMac s t) (id) : t.rif id = s.rif id := by
  unfold Fib.rif
  rw [h.rifs]

theorem macOf (h : SameMac s t) (p) : macOf t p = OpxSai.macOf s p := by
  refine macOf_congr (h.owner p) fun hflag => ?_
  exact neighborMacEntryKey_congr (h.key p) (by rw [h.rif])
    (congrArg PacketAction.isForward (h.action p hflag)) (h.mac_addr p hflag)

theorem of_frame {P : Ptr → Prop} (h : EncapFrame P s t)
    (hP : ∀ p, P p → (s.nh p).owner_flag.neighbor = false) : SameMac s t where
  toSamePlaces := (SameNodes.of_core h.core).places
  tree := neighbor_mac_tree_of_core h.core
  owner p := congrArg OwnerFlag.neighbor
    (nh_field_of_core (f := Nh.owner_flag) (fun _ => rfl) h.core p)
  action p hp := h.action p fun hPp => by
    rw [hP p hPp] at hp
    simp at hp
  mac_addr p _ := nh_field_of_core (f := Nh.mac_addr) (fun _ => rfl) h.core p

theorem call (env) (c) (s) : SameMac s (s.call env c).2 :=
  ⟨⟨rfl, fun _ => rfl, rfl⟩, rfl, fun _ => rfl, fun _ _ => rfl, fun _ _ => rfl⟩

theorem modNh {f : Nh → Nh} (hp : s.NhLive p) (hplace : (f (s.nh p)).place = (s.nh p).place)
    (howner : (f (s.nh p)).owner_flag.neighbor = (s.nh p).owner_flag.neighbor)
    (haction : (s.nh p).owner_flag.neighbor = true → (f (s.nh p)).packet_action = (s.nh p).packet_action)
    (hmac : (s.nh p).owner_flag.neighbor = true → (f (s.nh p)).mac_addr = (s.nh p).mac_addr) :
    SameMac s (s.modNh p f) := by
  refine ⟨SamePlaces.modNh s p hplace, rfl, fun q => ?_, fun q hq => ?_, fun q hq => ?_⟩
  · rw [nh_modNh hp]
    split
    next heq =>
      rw [heq]
      exact howner
    · rfl
  · rw [nh_modNh hp]
    split
    next heq =>
      rw [heq] at hq ⊢
      exact haction hq
    · rfl
  · rw [nh_modNh hp]
    split
    next heq =>
      rw [heq] at hq ⊢
      exact hmac hq
    · rfl

end SameMac

/-! ## The invariant -/

/-- The tree is the index of the neighbors but `off`. -/
structure MacState (off : Option Ptr) (s : Fib) : Prop extends NodeTrees s where
  ip : ∀ p, (s.nh p).owner_flag.neighbor = true → (s.nh p).key.nh_type = .ip
  index : IndexOf s.neighbor_mac_tree fun p => if some p = off then none else macOf s p

section MacState

variable {env : Env} {off : Option Ptr} {t : Fib}

theorem MacState.of_same (h : MacState off s) (hsame : SameMac s t) : MacState off t where
  toNodeTrees := h.toNodeTrees.of_same hsame.toSamePlaces
  ip q hq := by
    rw [hsame.key]
    exact h.ip q ((hsame.owner q).symm.trans hq)
  index := by
    rw [hsame.tree]
    exact h.index.congr fun q => by rw [hsame.macOf]

theorem MacState.letOff (h : MacState none s) (hp : macOf s p = none) : MacState (some p) s := by
  refine ⟨h.toNodeTrees, h.ip, h.index.congr fun q => ?_⟩
  by_cases hq : q = p
  · simp [hq, hp]
  · simp [hq]

theorem MacState.on_of (h : MacState (some p) s) (hp : macOf s p = none) : MacState none s := by
  refine ⟨h.toNodeTrees, h.ip, h.index.congr fun q => ?_⟩
  by_cases hq : q = p
  · simp [hq, hp]
  · simp [hq]

theorem MacState.modNh (h : MacState (some p) s) (hp : s.NhLive p) {f : Nh → Nh}
    (hplace : (f (s.nh p)).place = (s.nh p).place)
    (hip : (f (s.nh p)).owner_flag.neighbor = true → (s.nh p).key.nh_type = .ip) :
    MacState (some p) (s.modNh p f) := by
  have hplaces := SamePlaces.modNh (f := f) s p hplace
  refine ⟨h.toNodeTrees.of_same hplaces, fun q hq => ?_, h.index.congr fun q => ?_⟩
  · rw [hplaces.key]
    rw [nh_modNh hp] at hq
    split at hq
    next heq =>
      rw [heq] at hq ⊢
      exact hip hq
    · exact h.ip q hq
  · by_cases heq : q = p
    · simp [heq]
    · have hread := nh_modNh_of_ne s f heq
      rw [macOf_congr (s := s) (q := q) (by rw [hread]) fun _ => by rw [hread]; rfl]

/-! ## Off and on -/

structure MacOnly (s t : Fib) : Prop where
  nhs : t.nhs = s.nhs
  vrfs : t.vrf_tree = s.vrf_tree
  rifs : t.router_interface_tree = s.router_interface_tree

namespace MacOnly

theorem trans {u} (h : MacOnly s t) (k : MacOnly t u) : MacOnly s u :=
  ⟨k.nhs.trans h.nhs, k.vrfs.trans h.vrfs, k.rifs.trans h.rifs⟩

theorem nh (h : MacOnly s t) (q) : t.nh q = s.nh q := by
  unfold Fib.nh
  rw [h.nhs]

theorem live (h : MacOnly s t) (q) : t.NhLive q ↔ s.NhLive q := by
  unfold NhLive
  rw [h.nhs]

theorem rif (h : MacOnly s t) (id) : t.rif id = s.rif id := by
  unfold Fib.rif
  rw [h.rifs]

theorem places (h : MacOnly s t) : SamePlaces s t :=
  ⟨by rw [h.nhs], fun v => by unfold Fib.vrf; rw [h.vrfs], h.rifs⟩

theorem macEntryKey (h : MacOnly s t) (n) :
    neighborMacEntryKey n t = neighborMacEntryKey n s :=
  neighborMacEntryKey_congr rfl (by rw [h.rif]) rfl rfl

theorem macOf (h : MacOnly s t) (q) : macOf t q = OpxSai.macOf s q :=
  macOf_congr (by rw [h.nh]) fun _ => by rw [h.nh, h.macEntryKey]

end MacOnly

theorem macOnly_neighborMacEntryRemove (env) (p) (s) :
    MacOnly s (neighborMacEntryRemove env p s).2 := by
  unfold neighborMacEntryRemove
  split
  · exact ⟨rfl, rfl, rfl⟩
  · exact ⟨rfl, rfl, rfl⟩
  split
  · exact ⟨rfl, rfl, rfl⟩
  simp only
  split
  · exact ⟨rfl, rfl, rfl⟩
  · exact ⟨rfl, rfl, rfl⟩

theorem macOnly_neighborMacEntryInsert (env) (p) (s) :
    MacOnly s (neighborMacEntryInsert env p s).2 := by
  unfold neighborMacEntryInsert
  split
  · exact ⟨rfl, rfl, rfl⟩
  · exact ⟨rfl, rfl, rfl⟩
  split
  · exact ⟨rfl, rfl, rfl⟩
  split
  · exact ⟨rfl, rfl, rfl⟩
  split
  · exact ⟨rfl, rfl, rfl⟩
  simp only
  split
  · exact ⟨rfl, rfl, rfl⟩
  rename_i key _ _ _ _ _ _
  have hset : MacOnly s ((macTreeSet key (some [p]) s).call env
    (.registerFdbEntry key)).2 := ⟨rfl, rfl, rfl⟩
  exact hset.trans (macOnly_neighborMacEntryRemove env p _)

variable (env) in

theorem neighborMacEntryRemove_of_mem (hkey : neighborMacEntryKey (s.nh p) s = .ok (some key))
    (hmem : p ∈ values s.neighbor_mac_tree key) :
    (neighborMacEntryRemove env p s).1 = .success ∧ (neighborMacEntryRemove env p s).2.neighbor_mac_tree =
        MultiMap.remove s.neighbor_mac_tree key p := by
  unfold neighborMacEntryRemove
  rw [hkey]
  simp only
  cases hl : s.neighbor_mac_tree key with
  | none =>
    unfold values at hmem
    simp [hl] at hmem
  | some l =>
    have hval : values s.neighbor_mac_tree key = l := by
      unfold values
      rw [hl]
      rfl
    rw [hval] at hmem
    simp only [dllRemove, if_pos hmem]
    split
    next hnil =>
      refine ⟨rfl, funext fun k => ?_⟩
      show (if k = key then none else s.neighbor_mac_tree k) = _
      unfold MultiMap.remove
      rw [hval, if_pos hnil]
    rename_i hne
    refine ⟨rfl, funext fun k => ?_⟩
    show (if k = key then some (l.erase p) else s.neighbor_mac_tree k) = _
    unfold MultiMap.remove
    rw [hval, if_neg hne]

/-- A MAC entry is there for the node, or can be made: one with `p` alone on it goes when
`p` is taken off. -/
def MacEntryReady (env : Env) (key : MacKey) (p : Ptr) (s : Fib) : Prop :=
  (∃ l, s.neighbor_mac_tree key = some l ∧ l ≠ [p]) ∨
    (env.avail .macEntryNode = true ∧ env.avail .macTree = true ∧
      env.status (.registerFdbEntry key) = .success)

variable (env) in

theorem neighborMacEntryInsert_of_key (hkey : neighborMacEntryKey (s.nh p) s = .ok (some key)) :
    ((neighborMacEntryInsert env p s).1 = .success ∧ (neighborMacEntryInsert env p s).2.neighbor_mac_tree =
          MultiMap.insert s.neighbor_mac_tree key p) ∨ ((neighborMacEntryInsert env p s).1 ≠ .success ∧
        (neighborMacEntryInsert env p s).2.neighbor_mac_tree = s.neighbor_mac_tree ∧
        s.neighbor_mac_tree key = none ∧
        ¬ (env.avail .macEntryNode = true ∧ env.avail .macTree = true ∧
          env.status (.registerFdbEntry key) = .success)) := by
  unfold neighborMacEntryInsert
  rw [hkey]
  simp only
  cases hl : s.neighbor_mac_tree key with
  | some l =>
    refine .inl ⟨rfl, funext fun k => ?_⟩
    show (if k = key then some (l ++ [p]) else s.neighbor_mac_tree k) = _
    rw [insert_apply]
    unfold values
    rw [hl]
    rfl
  | none =>
    simp only
    split
    next hno => exact .inr ⟨by simp, rfl, trivial, fun h => by simp [h.1] at hno⟩
    split
    next hno => exact .inr ⟨by simp, rfl, trivial, fun h => by simp [h.2.1] at hno⟩
    split
    · refine .inl ⟨‹_›, funext fun k => ?_⟩
      show (if k = key then some [p] else s.neighbor_mac_tree k) = _
      rw [insert_apply]
      unfold values
      rw [hl]
      rfl
    rename_i hno
    refine .inr ⟨hno, ?_, trivial, fun h => hno h.2.2⟩
    -- what was set is taken away again
    have hset : MacOnly s ((macTreeSet key (some [p]) s).call env
      (.registerFdbEntry key)).2 := ⟨rfl, rfl, rfl⟩
    have hkey' : neighborMacEntryKey (((macTreeSet key (some [p]) s).call env
        (.registerFdbEntry key)).2.nh p) ((macTreeSet key (some [p]) s).call env
        (.registerFdbEntry key)).2 = .ok (some key) := by
      rw [hset.nh, hset.macEntryKey, hkey]
    have hval : values ((macTreeSet key (some [p]) s).call env
        (.registerFdbEntry key)).2.neighbor_mac_tree key = [p] := by
      show (if key = key then some [p] else s.neighbor_mac_tree key).getD [] = [p]
      rw [if_pos rfl]
      rfl
    rw [(neighborMacEntryRemove_of_mem _ hkey' (by rw [hval]; simp)).2]
    funext k
    unfold MultiMap.remove
    rw [hval]
    simp only [List.erase_cons_head, if_true]
    split
    next hk => rw [hk, hl]
    rename_i hk
    show (if k = key then some [p] else s.neighbor_mac_tree k) = _
    rw [if_neg hk]

theorem neighborMacEntryKey_ok (h : NodeTrees s) (hp : s.NhLive p) (hn : n.key = (s.nh p).key) :
    ∃ key, neighborMacEntryKey n s = .ok key := by
  obtain ⟨rif, hrif, -⟩ := h.home p hp
  unfold neighborMacEntryKey
  rw [hn, hrif]
  simp only
  split
  · exact ⟨_, rfl⟩
  split
  · exact ⟨_, rfl⟩
  · exact ⟨_, rfl⟩

variable (env) in

theorem neighborMacEntryRemove_state (h : MacState none s) (hp : s.NhLive p)
    (hflag : (s.nh p).owner_flag.neighbor = true) :
    (neighborMacEntryRemove env p s).1 = .success ∧
      MacState (some p) (neighborMacEntryRemove env p s).2 := by
  have honly := macOnly_neighborMacEntryRemove env p s
  obtain ⟨key, hkey⟩ := neighborMacEntryKey_ok h.toNodeTrees hp rfl
  cases key with
  | none =>
    have hout : neighborMacEntryRemove env p s = (.success, s) := by
      unfold neighborMacEntryRemove
      rw [hkey]
    rw [hout]
    refine ⟨rfl, h.letOff ?_⟩
    simp [macOf, hflag, hkey]
  | some key =>
    have hmac : macOf s p = some key := macOf_eq_some.mpr ⟨hflag, hkey⟩
    have hmem : p ∈ values s.neighbor_mac_tree key :=
      (h.index.mem key p).mpr (by simpa using hmac)
    obtain ⟨hok, htree⟩ := neighborMacEntryRemove_of_mem env hkey hmem
    refine ⟨hok, h.toNodeTrees.of_same honly.places, fun q hq => ?_, ?_⟩
    · rw [honly.nh] at hq ⊢
      exact h.ip q hq
    · rw [htree]
      refine h.index.remove (k := key) (by simpa using hmac) fun q => ?_
      rw [honly.macOf]
      simp

variable (env) in

/-- **On**, when the MAC entry is there or can be made; else the node stays off. -/
theorem neighborMacEntryInsert_state (h : MacState (some p) s) (hp : s.NhLive p)
    (hflag : (s.nh p).owner_flag.neighbor = true) :
    ((neighborMacEntryInsert env p s).1 = .success ∧
        MacState none (neighborMacEntryInsert env p s).2) ∨
      ((neighborMacEntryInsert env p s).1 ≠ .success ∧
        MacState (some p) (neighborMacEntryInsert env p s).2 ∧
        ∃ key, neighborMacEntryKey (s.nh p) s = .ok (some key) ∧
          s.neighbor_mac_tree key = none ∧
          ¬ (env.avail .macEntryNode = true ∧ env.avail .macTree = true ∧
            env.status (.registerFdbEntry key) = .success)) := by
  have honly := macOnly_neighborMacEntryInsert env p s
  obtain ⟨key, hkey⟩ := neighborMacEntryKey_ok h.toNodeTrees hp rfl
  cases key with
  | none =>
    have hout : neighborMacEntryInsert env p s = (.success, s) := by
      unfold neighborMacEntryInsert
      rw [hkey]
    rw [hout]
    refine .inl ⟨rfl, h.on_of ?_⟩
    simp [macOf, hflag, hkey]
  | some key =>
    have hip : ∀ q, ((neighborMacEntryInsert env p s).2.nh q).owner_flag.neighbor = true →
        ((neighborMacEntryInsert env p s).2.nh q).key.nh_type = .ip := fun q hq => by
      rw [honly.nh] at hq ⊢
      exact h.ip q hq
    rcases neighborMacEntryInsert_of_key env hkey with
      ⟨hok, htree⟩ | ⟨hfail, htree, hnone, hwhy⟩
    · refine .inl ⟨hok, h.toNodeTrees.of_same honly.places, hip, ?_⟩
      rw [htree]
      refine h.index.insert (v := p) (by simp) key fun q => ?_
      rw [honly.macOf]
      by_cases hq : q = p
      · simp [hq, macOf_eq_some.mpr ⟨hflag, hkey⟩]
      · simp [hq]
    · refine .inr ⟨hfail, ⟨h.toNodeTrees.of_same honly.places, hip, ?_⟩,
        key, hkey, hnone, hwhy⟩
      rw [htree]
      exact h.index.congr fun q => by rw [honly.macOf]

/-! ## How nodes come and go -/

theorem MacState.of_nodes (h : MacState none s) (htrees : NodeTrees t) {q}
    (htree : t.neighbor_mac_tree = s.neighbor_mac_tree)
    (hrif : ∀ id, (t.rif id).map Rif.attached = (s.rif id).map Rif.attached)
    (hread : ∀ p, p ≠ q → t.nh p = s.nh p) (hs : (s.nh q).owner_flag.neighbor = false)
    (ht : (t.nh q).owner_flag.neighbor = false) : MacState none t := by
  refine ⟨htrees, fun p hp => ?_, ?_⟩
  · by_cases hq : p = q
    · rw [hq, ht] at hp
      simp at hp
    · rw [hread p hq] at hp ⊢
      exact h.ip p hp
  · rw [htree]
    refine h.index.congr fun p => ?_
    have hmac : macOf t p = macOf s p := by
      by_cases hq : p = q
      · rw [hq, macOf_of_not_neighbor ht, macOf_of_not_neighbor hs]
      refine macOf_congr (by rw [hread p hq]) fun _ => ?_
      rw [hread p hq]
      exact neighborMacEntryKey_congr rfl (hrif _) rfl rfl
    rw [hmac]

theorem attached_modRif {f : Rif → Rif} (hid : ∀ r, (f r).rif_id = r.rif_id)
    (hatt : ∀ r, (f r).attached = r.attached) (s : Fib) {id} (j : Oid) :
    ((s.modRif id f).rif j).map Rif.attached = (s.rif j).map Rif.attached := by
  rw [rif_modRif hid, Option.map_map]
  refine congrArg (fun k => Option.map k (s.rif j)) (funext fun r => ?_)
  show (if r.rif_id = id then f r else r).attached = r.attached
  split
  · exact hatt r
  · rfl

theorem neighbor_of_dead (hp : ¬ s.NhLive p) : (s.nh p).owner_flag.neighbor = false := by
  rw [nh_of_not_live hp]
  rfl

theorem ipNextHopNodeCreate_mac (h : MacState none s) (hflag : nh_info.owner_flag = ⟨false, false⟩)
    (hvrf : ∃ vrf, s.vrfForRif nh_info.key.rif_id = some vrf ∧ vrf.vrf_id = nh_info.vrf_id)
    (hx : ipNextHopNodeCreate env nh_info.vrf_id nh_info s = (x, t)) :
    match x with
    | .error _ => MacState none t
    | .ok p => MacState none t ∧ t.NhLive p ∧ t.nh p = { nh_info with nh_group_list:= [], dep_encap_nh_list := [], dep_route_list := [] } := by
  have hdead := neighbor_of_dead (not_nhLive_next s)
  obtain ⟨status, nhs, -, hget, hx⟩ | ⟨vrf, hv, hfind, hx⟩ := ipNextHopNodeCreate_cases hx
  · cases hx
    have hnh : ∀ q, ({ s with nhs := nhs } : Fib).nh q = s.nh q := fun q => congrArg (·.getD Nh.zero) (hget q)
    exact h.of_nodes (h.toNodeTrees.of_get hget rfl rfl) rfl (fun _ => rfl)
      (fun p _ => hnh p) hdead (by rw [hnh]; exact hdead)
  cases hx
  have hnh : ∀ q, (nhNodeMade nh_info.vrf_id nh_info s).nh q = (nhNodeAlloc nh_info s).nh q := fun _ => rfl
  have hself := nh_nhNodeAlloc nh_info s s.nhs.next
  rw [if_pos rfl] at hself
  refine ⟨h.of_nodes (h.toNodeTrees.create hv hfind (h.toNodeTrees.home_of_vrfForRif hvrf))
    (q := s.nhs.next) rfl (fun id => ?_) (fun p hp => ?_) hdead ?_,
    (nhLive_nhNodeAlloc _ s _).mpr (.inl rfl), ?_⟩
  · exact attached_modRif (f := fun r => { r with ref_count := r.ref_count + 1 })
      (fun _ => rfl) (fun _ => rfl) _ id
  · rw [hnh, nh_nhNodeAlloc, if_neg hp]
  · rw [hnh, hself, hflag]
  · rw [hnh, hself]

theorem checkAndDeleteIpNextHopNode_mac (h : MacState none s) (hp : s.NhLive p) :
    MacState none (checkAndDeleteIpNextHopNode (s.nh p).vrf_id p s).2 := by
  unfold checkAndDeleteIpNextHopNode
  split
  next hzero =>
    split
    · exact h
    have hflag : (s.nh p).owner_flag.neighbor = false := ((OwnerFlag.isZero_iff _).mp hzero).2
    refine h.of_nodes (h.toNodeTrees.delete hp) (q := p) rfl (fun id => ?_) (fun q hq => ?_)
      hflag (neighbor_of_dead ?_)
    · exact attached_modRif (f := fun r => { r with ref_count := r.ref_count - 1 })
        (fun _ => rfl) (fun _ => rfl) _ id
    · exact nh_nhNodeFree_of_ne hq _
    · exact mt (nhLive_nhNodeFree _ p).mp fun hand => hand.1 rfl
  · exact h

/-! ## Next hop calls -/

theorem MacState.encap_not_neighbor (h : MacState none s)
    (hp : (s.nh p).key.nh_type = .tunnelEncap) : (s.nh p).owner_flag.neighbor = false := by
  by_contra hflag
  rw [h.ip p (by simpa using hflag)] at hp
  simp at hp

variable (env) in

theorem nextHopNpuCreate_sameMac (h : MacState none s) (p) :
    SameMac s (nextHopNpuCreate env p s).2 := by
  unfold nextHopNpuCreate
  split
  next hencap =>
    have hflag := h.encap_not_neighbor (p := p) (by simpa [Nh.isTunnelEncap] using hencap)
    refine SameMac.of_frame (encapNextHopCreate_frame env (P := fun q => q = p) rfl s) ?_
    rintro q rfl
    exact hflag
  · exact SameMac.call env _ s

variable (env) in

theorem nextHopNpuRemove_sameMac (h : MacState none s) (p) :
    SameMac s (nextHopNpuRemove env p s).2 := by
  unfold nextHopNpuRemove
  split
  next hencap =>
    have hflag := h.encap_not_neighbor (p := p) (by simpa [Nh.isTunnelEncap] using hencap)
    refine SameMac.of_frame (encapNextHopRemove_frame env (P := fun q => q = p) rfl s) ?_
    rintro q rfl
    exact hflag
  · exact SameMac.call env _ s

theorem nextHopLeave_mac (h : MacState none s) (hp : s.NhLive p) :
    MacState none (checkAndDeleteIpNextHopNode ((s.modNh p Nh.nextHopInfoReset).nh p).vrf_id p
      (s.modNh p Nh.nextHopInfoReset)).2 := by
  have hreset : SameMac s (s.modNh p Nh.nextHopInfoReset) :=
    SameMac.modNh hp rfl rfl (fun _ => rfl) (fun _ => rfl)
  exact checkAndDeleteIpNextHopNode_mac (h.of_same hreset) ((nhLive_modNh s p p _).mpr hp)

theorem nextHopNodeObtain_mac (h : MacState none s) (hinfo : NextHopInfoOk s nh_info)
    (hx : nextHopNodeObtain env nh_info s = (x, t)) :
    match x with
    | .error _ => MacState none t
    | .ok p => MacState none t ∧ t.NhLive p := by
  unfold nextHopNodeObtain at hx
  split at hx
  next p hget =>
    split at hx
    · cases hx
      exact h
    · cases hx
      exact ⟨h, (h.nodeGet hget).1⟩
  have hcreate := ipNextHopNodeCreate_mac h hinfo.owner_flag hinfo.vrf hx
  cases x with
  | error status => exact hcreate
  | ok p => exact ⟨hcreate.1, hcreate.2.1⟩

theorem ipNextHopCreate_mac (h : MacState none s) (hinfo : NextHopInfoOk s nh_info)
    (hx : ipNextHopCreate env nh_info s = (x, t)) :
    match x with
    | .error _ => MacState none t
    | .ok p => MacState none t ∧ t.NhLive p := by
  unfold ipNextHopCreate at hx
  cases hobtain : nextHopNodeObtain env nh_info s with
  | mk y u =>
    have hnode := nextHopNodeObtain_mac h hinfo hobtain
    rw [hobtain] at hx
    cases y with
    | error status =>
      cases hx
      exact hnode
    | ok p =>
      obtain ⟨hstate, hlive⟩ := hnode
      have hset : SameMac u (u.modNh p Nh.setOwnerNextHop) :=
        SameMac.modNh hlive rfl rfl (fun _ => rfl) (fun _ => rfl)
      have hnpu := nextHopNpuCreate_sameMac env (hstate.of_same hset) p
      have hmid := (hstate.of_same hset).of_same hnpu
      have hlive' : (nextHopNpuCreate env p (u.modNh p Nh.setOwnerNextHop)).2.NhLive p :=
        (hnpu.live p).mpr ((hset.live p).mpr hlive)
      simp only at hx
      generalize nextHopNpuCreate _ p _ = z at hx hmid hlive'
      split at hx
      · cases hx
        have hid : SameMac z.2 (z.2.modNh p (Nh.setNextHopId (uoidCreate .nextHop env.hw_id))) :=
          SameMac.modNh hlive' rfl rfl (fun _ => rfl) (fun _ => rfl)
        exact ⟨hmid.of_same hid, (hid.live p).mpr hlive'⟩
      · cases hx
        exact nextHopLeave_mac hmid hlive'

variable (env) in

theorem ipNextHopRemove_mac (h : MacState none s) (hp : s.NhLive p) :
    MacState none (ipNextHopRemove env p s).2 := by
  unfold ipNextHopRemove
  split
  · exact h
  have hnpu := nextHopNpuRemove_sameMac env h p
  unfold andThen
  split
  · exact nextHopLeave_mac (h.of_same hnpu) ((hnpu.live p).mpr hp)
  · exact h.of_same hnpu

theorem nhIdTreeInsert_sameMac (env) (p) (s) :
    SameMac s (nhIdTreeInsert env p s).2 := by
  unfold nhIdTreeInsert
  simp only
  split
  · exact ⟨⟨rfl, fun _ => rfl, rfl⟩, rfl, fun _ => rfl, fun _ _ => rfl, fun _ _ => rfl⟩
  · exact SameMac.refl s

theorem nhIdTreeRemove_sameMac (p) (s) : SameMac s (nhIdTreeRemove p s).2 := by
  unfold nhIdTreeRemove
  simp only
  split
  · exact ⟨⟨rfl, fun _ => rfl, rfl⟩, rfl, fun _ => rfl, fun _ _ => rfl, fun _ _ => rfl⟩
  · exact ⟨⟨rfl, fun _ => rfl, rfl⟩, rfl, fun _ => rfl, fun _ _ => rfl, fun _ _ => rfl⟩

theorem nextHopCreate_mac (h : MacState none s) (attr_list) :
    MacState none (nextHopCreate env attr_list s).1.2 := by
  unfold nextHopCreate
  split
  · exact h
  rename_i nh_info hfill
  cases hcreate : ipNextHopCreate env nh_info s with
  | mk x t =>
    have hstate := ipNextHopCreate_mac h (nextHopInfoFill_ok hfill) hcreate
    cases x with
    | error status => exact hstate
    | ok p =>
      obtain ⟨hstate, hlive⟩ := hstate
      have hids := nhIdTreeInsert_sameMac env p t
      simp only
      split
      · exact hstate.of_same hids
      · exact ipNextHopRemove_mac _ (hstate.of_same hids) ((hids.live p).mpr hlive)

theorem nextHopRemove_mac (h : MacState none s) (next_hop_id) :
    MacState none (nextHopRemove env next_hop_id s).2 := by
  unfold nextHopRemove
  split
  · exact h
  split
  · exact h
  rename_i p hp
  split
  · exact h
  rename_i hflag
  split
  · exact h
  have hlive : s.NhLive p := nhLive_of_next_hop (by simpa using hflag)
  have hids := nhIdTreeRemove_sameMac p s
  have hout := h.of_same hids
  unfold nextHopRemoveNode
  simp only
  split
  · exact hout
  have hleave := ipNextHopRemove_mac env hout ((hids.live p).mpr hlive)
  split
  · exact hleave
  · exact hleave.of_same (nhIdTreeInsert_sameMac env p _)

/-! ## Neighbor calls -/

theorem neighborAffectedEncapNhResolve_frame (env) (p) (op)
    (h : NodeTrees s) : EncapFrame (fun e => (s.nh e).key.nh_type = .tunnelEncap) s
      (neighborAffectedEncapNhResolve env p op s) := by
  unfold neighborAffectedEncapNhResolve
  split
  · exact .refl _ s
  rename_i vrf hvrf
  refine @EncapWrites.frame env _ _ _ (.foldl (fun e he t => ?_) s)
  obtain ⟨key, hmem, htype, -⟩ := nhTreeIpWalk_tunnelEncap he
  obtain ⟨-, hkey, -⟩ := h.node _ vrf key e hvrf hmem
  exact neighborAffectedEncapNhStep_writes env (by rw [hkey]; exact htype) vrf p op t

variable (env) in

theorem neighborAffectedEncapNhResolve_sameMac (h : MacState none s) (p) (op) :
    SameMac s (neighborAffectedEncapNhResolve env p op s) :=
  SameMac.of_frame (neighborAffectedEncapNhResolve_frame env p op h.toNodeTrees)
    fun _ he => h.encap_not_neighbor he

theorem neighborLeave_mac (h : MacState (some p) s) (hp : s.NhLive p) :
    MacState none (s.modNh p Nh.neighborInfoReset) := by
  refine (h.modNh hp (f := Nh.neighborInfoReset) rfl fun hflag => ?_).on_of
    (macOf_of_not_neighbor ?_)
  · simp [Nh.neighborInfoReset] at hflag
  · rw [nh_modNh hp, if_pos rfl]
    rfl

theorem neighborCreateUndo_mac (h : MacState (some p) s) (hp : s.NhLive p) :
    MacState none (neighborCreateUndo p s) :=
  checkAndDeleteIpNextHopNode_mac (neighborLeave_mac h hp) ((nhLive_modNh s p p _).mpr hp)

theorem neighborNodeCreate_mac (h : MacState none s) (hinfo : NeighborInfoOk entry s nh_info)
    (hx : neighborNodeCreate env nh_info s = (x, t)) :
    match x with
    | .error _ => MacState none t
    | .ok p => MacState (some p) t ∧ t.NhLive p ∧ (t.nh p).owner_flag.neighbor = true := by
  have htype : nh_info.key.nh_type = .ip := by
    rw [hinfo.key]
    rfl
  unfold neighborNodeCreate at hx
  split at hx
  next p hget =>
    obtain ⟨hlive, hkey⟩ := h.nodeGet hget
    split at hx
    · cases hx
      exact h
    rename_i hflag
    cases hx
    have hip : (s.nh p).key.nh_type = .ip := by rw [hkey]
    -- the attributes are copied first, then the bit is set
    have hoff := h.letOff (macOf_of_not_neighbor (by simpa using hflag))
    have hcopy := hoff.modNh hlive (f := nh_info.neighborAttrCopy) rfl fun _ => hip
    have hlive' := (nhLive_modNh s p p nh_info.neighborAttrCopy).mpr hlive
    have hread : (s.modNh p nh_info.neighborAttrCopy).nh p =
        nh_info.neighborAttrCopy (s.nh p) := by
      rw [nh_modNh hlive, if_pos rfl]
    refine ⟨hcopy.modNh hlive' (f := Nh.setOwnerNeighbor) rfl fun _ => ?_,
      (nhLive_modNh _ p p _).mpr hlive', ?_⟩
    · rw [hread]
      exact hip
    · rw [nh_modNh hlive', if_pos rfl]
      rfl
  · cases hcreate : ipNextHopNodeCreate env nh_info.vrf_id nh_info s with
    | mk y u =>
      have hflag : nh_info.owner_flag = ⟨false, false⟩ := by
        rw [hinfo.fields]
        rfl
      have hvrf : ∃ vrf, s.vrfForRif nh_info.key.rif_id = some vrf ∧
          vrf.vrf_id = nh_info.vrf_id := by
        rw [hinfo.key]
        exact hinfo.vrf
      have hstate := ipNextHopNodeCreate_mac h hflag hvrf hcreate
      rw [hcreate] at hx
      cases y with
      | error status =>
        cases hx
        exact hstate
      | ok p =>
        cases hx
        obtain ⟨hstate, hlive, hnh⟩ := hstate
        have hoff := hstate.letOff (p := p) (macOf_of_not_neighbor (by rw [hnh, hflag]))
        refine ⟨hoff.modNh hlive rfl fun _ => ?_, (nhLive_modNh u p p _).mpr hlive, ?_⟩
        · rw [hnh]
          exact htype
        · rw [nh_modNh hlive, if_pos rfl]
          rfl

theorem neighborCreateProgram_mac (h : MacState none s) (hp : s.NhLive p)
    (hflag : (s.nh p).owner_flag.neighbor = true) :
    MacState none (neighborCreateProgram env p s).2 := by
  unfold neighborCreateProgram
  split
  · obtain ⟨-, hoff⟩ := neighborMacEntryRemove_state env h hp hflag
    exact neighborCreateUndo_mac hoff ((macOnly_neighborMacEntryRemove env p s).live p |>.mpr hp)
  rename_i info hinfo
  have hfields := neighborPortIdResolve_ok hinfo
  have hwrite : SameMac s (s.modNh p fun _ => info) := by
    refine SameMac.modNh hp ?_ ?_ (fun _ => ?_) (fun _ => ?_)
    · rw [hfields]
      rfl
    · rw [hfields]
    · rw [hfields]
    · rw [hfields]
  have hcall := hwrite.trans (SameMac.call env (.neighborCreate info) (s.modNh p fun _ => info))
  have hmid := h.of_same hcall
  have hlive := (hcall.live p).mpr hp
  have hflag' := (hcall.owner p).trans hflag
  simp only
  generalize (s.modNh p fun _ => info).call _ _ = x at hmid hlive hflag' ⊢
  split
  · exact hmid.of_same (neighborAffectedEncapNhResolve_sameMac _ hmid p _)
  obtain ⟨-, hoff⟩ := neighborMacEntryRemove_state env hmid hlive hflag'
  exact neighborCreateUndo_mac hoff
    ((macOnly_neighborMacEntryRemove env p x.2).live p |>.mpr hlive)

theorem neighborCreate_mac (h : MacState none s) (entry)
    (attr_list) : MacState none (neighborCreate env entry attr_list s).2 := by
  unfold neighborCreate
  split
  · exact h
  rename_i nh_info hkey
  split
  · exact h
  rename_i nh_info' flags hfill
  cases hnode : neighborNodeCreate env nh_info' s with
  | mk x t =>
    have hinfo := (neighborKeyValidateAndFill_ok hkey).fill hfill
    have hstate := neighborNodeCreate_mac h hinfo hnode
    cases x with
    | error status => exact hstate
    | ok p =>
      obtain ⟨hoff, hlive, hflag⟩ := hstate
      have honly := macOnly_neighborMacEntryInsert env p t
      simp only
      rcases neighborMacEntryInsert_state env hoff hlive hflag with
        ⟨hok, hon⟩ | ⟨hfail, hstill, -⟩
      · rw [if_pos hok]
        exact neighborCreateProgram_mac hon ((honly.live p).mpr hlive)
          (by rw [honly.nh]; exact hflag)
      · rw [if_neg hfail]
        exact neighborCreateUndo_mac hstill ((honly.live p).mpr hlive)

/-- When the NPU refuses to remove a neighbor, its MAC entry is there or can be made. -/
def NeighborRemoveClean (env : Env) (entry : NeighborEntry) (s : Fib) : Prop :=
  ∀ nh key, neighborNodeGet entry s = .ok nh →
    neighborMacEntryKey (s.nh nh) s = .ok (some key) →
    env.status (.neighborRemove (s.nh nh).neighborInfoReset) = .success ∨
      MacEntryReady env key nh s

/-- What is asked of a neighbor attribute set that the node and the NPU accept: a neighbor on
a MAC entry goes on being forwarded to, unless its MAC entry is worked out anew, and a new MAC
entry is there or can be made. -/
structure NeighborSetClean (env : Env) (entry : NeighborEntry) (attr : NeighborAttr)
    (s : Fib) : Prop where
  forward : ∀ nh n flags info key, neighborNodeGet entry s = .ok nh →
    neighborInfoFill env [attr] (s.nh nh) = .ok (n, flags) →
    env.status (.neighborAttrSet info flags) = .success →
    isMacEntryResolved flags (s.nh nh) = false →
    neighborMacEntryKey (s.nh nh) s = .ok (some key) → n.packet_action.isForward = true
  ready : ∀ nh n flags info key, neighborNodeGet entry s = .ok nh →
    neighborInfoFill env [attr] (s.nh nh) = .ok (n, flags) →
    env.status (.neighborAttrSet info flags) = .success →
    isMacEntryResolved flags (s.nh nh) = true →
    neighborMacEntryKey n s = .ok (some key) → MacEntryReady env key nh s

theorem MacEntryReady.insert_state (hready : MacEntryReady env key p s)
    (h : MacState none s) (hp : s.NhLive p) (hflag : (s.nh p).owner_flag.neighbor = true) :
    (neighborMacEntryRemove env p s).2.neighbor_mac_tree key ≠ none ∨
      (env.avail .macEntryNode = true ∧ env.avail .macTree = true ∧
        env.status (.registerFdbEntry key) = .success) := by
  refine hready.imp_left fun ⟨l, hl, hne⟩ => ?_
  have hnil := h.index.nonempty key l hl
  obtain ⟨k, hk⟩ := neighborMacEntryKey_ok h.toNodeTrees hp rfl
  cases k with
  | none =>
    have hout : neighborMacEntryRemove env p s = (.success, s) := by
      unfold neighborMacEntryRemove
      rw [hk]
    rw [hout, hl]
    simp
  | some k =>
    have hmem : p ∈ values s.neighbor_mac_tree k :=
      (h.index.mem k p).mpr (by simpa using macOf_eq_some.mpr ⟨hflag, hk⟩)
    rw [(neighborMacEntryRemove_of_mem env hk hmem).2]
    exact remove_ne_none hl hnil hne

/-- Off with the old values, on with the new ones. -/
theorem neighborMacEntry_rewrite (h : MacState none s) (hp : s.NhLive p)
    (hflag : (s.nh p).owner_flag.neighbor = true) (hplace : n.place = (s.nh p).place)
    (howner : n.owner_flag.neighbor = true)
    (hready : ∀ key, neighborMacEntryKey n s = .ok (some key) → MacEntryReady env key p s)
    (hoff : MacState (some p) t) (ht : t.NhLive p)
    (htplace : (t.nh p).place = (s.nh p).place) (hrif : ∀ id, t.rif id = s.rif id)
    (htree : t.neighbor_mac_tree = (neighborMacEntryRemove env p s).2.neighbor_mac_tree) :
    MacState none (neighborMacEntryInsert env p (t.modNh p fun _ => n)).2 := by
  have hip : (s.nh p).key.nh_type = .ip := h.ip p hflag
  have hwrite := hoff.modNh ht (f := fun _ => n) (hplace.trans htplace.symm) fun _ => by
    rw [show (t.nh p).key = (s.nh p).key from congrArg Prod.fst htplace]
    exact hip
  have hread : (t.modNh p fun _ => n).nh p = n := by
    rw [nh_modNh ht, if_pos rfl]
  rcases neighborMacEntryInsert_state env hwrite ((nhLive_modNh t p p _).mpr ht)
    (by rw [hread]; exact howner) with ⟨-, hon⟩ | ⟨-, -, key, hkey, hnone, hwhy⟩
  · exact hon
  · rw [hread] at hkey
    have hkey' : neighborMacEntryKey n s = .ok (some key) := by
      rw [← hkey]
      exact neighborMacEntryKey_congr rfl
        (congrArg (Option.map Rif.attached) (hrif n.key.rif_id).symm) rfl rfl
    -- the new MAC entry was promised
    rcases (hready key hkey').insert_state h hp hflag with hthere | hmade
    · change t.neighbor_mac_tree key = none at hnone
      rw [htree] at hnone
      exact absurd hnone hthere
    · exact absurd hmade hwhy

theorem neighborRemoveNode_mac (h : MacState none s) (hp : s.NhLive p)
    (hflag : (s.nh p).owner_flag.neighbor = true)
    (hclean : ∀ key, neighborMacEntryKey (s.nh p) s = .ok (some key) →
      env.status (.neighborRemove (s.nh p).neighborInfoReset) = .success ∨
        MacEntryReady env key p s) :
    MacState none (neighborRemoveNode env p s).2 := by
  have honly := macOnly_neighborMacEntryRemove env p s
  obtain ⟨hok, hoff⟩ := neighborMacEntryRemove_state env h hp hflag
  unfold neighborRemoveNode
  simp only
  rw [andThen_of_success hok]
  generalize hu : (neighborMacEntryRemove _ p s).2 = u at honly hoff ⊢
  have hlive := (honly.live p).mpr hp
  have hread : (u.modNh p Nh.neighborInfoReset).nh p = (s.nh p).neighborInfoReset := by
    rw [nh_modNh hlive, if_pos rfl, honly.nh]
  have hlive' : (u.modNh p Nh.neighborInfoReset).NhLive p := (nhLive_modNh u p p _).mpr hlive
  have hcall := SameMac.call env (.neighborRemove ((u.modNh p Nh.neighborInfoReset).nh p))
    (u.modNh p Nh.neighborInfoReset)
  have hclive := (hcall.live p).mpr hlive'
  split
  · have hmid := (neighborLeave_mac hoff hlive).of_same hcall
    have hres := neighborAffectedEncapNhResolve_sameMac env hmid p .remove
    exact checkAndDeleteIpNextHopNode_mac (hmid.of_same hres) ((hres.live p).mpr hclive)
  rename_i hrefused
  -- the copy taken at the start is written back, and put on its list again
  have hreset : MacState (some p) (u.modNh p Nh.neighborInfoReset) :=
    hoff.modNh hlive rfl fun hno => by simp [Nh.neighborInfoReset] at hno
  refine neighborMacEntry_rewrite h hp hflag rfl hflag (fun key hkey => ?_)
    (hreset.of_same hcall) hclive ?_ (fun id => honly.rif id) (by rw [hu]; rfl)
  · refine (hclean key hkey).resolve_left fun hyes => hrefused ?_
    rw [hread]
    exact hyes
  · show ((u.modNh p Nh.neighborInfoReset).nh p).place = _
    rw [hread]
    rfl

theorem neighborRemove_mac (h : MacState none s) (hclean : NeighborRemoveClean env entry s) :
    MacState none (neighborRemove env entry s).2 := by
  unfold neighborRemove
  split
  · exact h
  rename_i p hget
  obtain ⟨hlive, -, hflag⟩ := neighborNodeGet_ok h.toNodeTrees hget
  exact neighborRemoveNode_mac h hlive hflag fun key => hclean p key hget

theorem neighborInfoFill_flags {attr_list}
    {y} (h : neighborInfoFill env attr_list nh_info = .ok y) :
    (y.2.dest_mac = false → y.1.mac_addr = nh_info.mac_addr) ∧
      (y.2.pkt_action = false → y.1.packet_action = nh_info.packet_action) := by
  have hset : ∀ (x : Nh × NeighborFlags) (attr : NeighborAttr) (x' : Nh × NeighborFlags),
      ((x.2.dest_mac = false → x.1.mac_addr = nh_info.mac_addr) ∧
        (x.2.pkt_action = false → x.1.packet_action = nh_info.packet_action)) →
      neighborAttrSet env x attr = .ok x' →
      (x'.2.dest_mac = false → x'.1.mac_addr = nh_info.mac_addr) ∧
        (x'.2.pkt_action = false → x'.1.packet_action = nh_info.packet_action) := by
    intro x attr x' hx hstep
    unfold neighborAttrSet at hstep
    cases attr with
    | dstMacAddress mac =>
      simp only at hstep
      split at hstep
      · simp at hstep
      · cases hstep
        exact ⟨fun hno => by simp at hno, hx.2⟩
    | packetAction s32 =>
      simp only at hstep
      split at hstep
      · simp at hstep
      · cases hstep
        exact ⟨hx.1, fun hno => by simp at hno⟩
    | noHostRoute booldata =>
      cases hstep
      exact hx
    | metaData u32 =>
      simp only at hstep
      split at hstep
      · simp at hstep
      split at hstep
      · simp at hstep
      · cases hstep
        exact hx
    | other id => simp at hstep
  unfold neighborInfoFill at h
  split at h
  · simp at h
  split at h
  · simp at h
  rename_i x hparse
  have hkept := attrListParse_keeps hset
    (⟨fun _ => rfl, fun _ => rfl⟩ :
      (NeighborFlags.none.dest_mac = false → nh_info.mac_addr = nh_info.mac_addr) ∧
        (NeighborFlags.none.pkt_action = false → nh_info.packet_action = nh_info.packet_action))
    hparse
  split at h
  · simp at h
  · cases h
    exact hkept

/-- The test for a new MAC entry misses one case only: a neighbor on a MAC entry that is no
longer forwarded to. -/
theorem neighborMacEntryKey_of_unresolved {m} {flags}
    (hkey : m.key = n.key) (hres : isMacEntryResolved flags n = false)
    (hmac : flags.dest_mac = false → m.mac_addr = n.mac_addr)
    (haction : flags.pkt_action = false → m.packet_action = n.packet_action)
    (hforward : ∀ key, neighborMacEntryKey n s = .ok (some key) →
      m.packet_action.isForward = true) :
    neighborMacEntryKey m s = neighborMacEntryKey n s := by
  unfold isMacEntryResolved at hres
  simp only [Bool.or_eq_false_iff, Bool.and_eq_false_iff, Bool.not_eq_false'] at hres
  obtain ⟨hno_mac, hold⟩ := hres
  have hmac := hmac hno_mac
  by_cases hsame : m.packet_action.isForward = n.packet_action.isForward
  · exact neighborMacEntryKey_congr hkey rfl hsame hmac
  have hforwarded : n.packet_action.isForward = true := by
    refine hold.resolve_left fun hno => hsame ?_
    rw [haction hno]
  -- so the new action is not forward, and there was no MAC entry to leave
  unfold neighborMacEntryKey at hforward ⊢
  rw [hkey]
  cases hrif : s.rif n.key.rif_id with
  | none => rfl
  | some rif =>
    by_cases htype : rif.type = .vlan
    · refine absurd ?_ hsame
      rw [hforwarded]
      refine hforward ⟨rif.attachment, n.mac_addr⟩ ?_
      rw [hrif]
      simp [htype, hforwarded]
    · simp [htype]

/-- A neighbor that keeps its MAC address and is forwarded to as before stays where it is. -/
theorem neighborAttributeCommit_mac_unresolved (h : MacState none s) (hp : s.NhLive p)
    (hflag : (s.nh p).owner_flag.neighbor = true) (hplace : n.place = (s.nh p).place)
    (howner : n.owner_flag.neighbor = true)
    (hkey : neighborMacEntryKey n s = neighborMacEntryKey (s.nh p) s) :
    MacState none (neighborAttributeCommit env p n false s) := by
  show MacState none (s.modNh p fun _ => n)
  have hread : (s.modNh p fun _ => n).nh p = n := by
    rw [nh_modNh hp, if_pos rfl]
  have hplaces := SamePlaces.modNh (f := fun _ => n) s p hplace
  refine ⟨h.toNodeTrees.of_same hplaces, fun q hq => ?_, h.index.congr fun q => ?_⟩
  · rw [hplaces.key]
    by_cases heq : q = p
    · rw [heq]
      exact h.ip p hflag
    · rw [nh_modNh_of_ne s _ heq] at hq
      exact h.ip q hq
  · have hmac : macOf (s.modNh p fun _ => n) q = macOf s q := by
      by_cases heq : q = p
      · rw [heq]
        exact macOf_congr (by rw [hread, howner, hflag]) fun _ => by rw [hread]; exact hkey
      · have hread' := nh_modNh_of_ne s (fun _ => n) heq
        exact macOf_congr (by rw [hread']) fun _ => by rw [hread']; rfl
    rw [hmac]

theorem neighborAttributeCommit_mac_resolved (h : MacState none s) (hp : s.NhLive p)
    (hflag : (s.nh p).owner_flag.neighbor = true) (hplace : n.place = (s.nh p).place)
    (howner : n.owner_flag.neighbor = true)
    (hready : ∀ key, neighborMacEntryKey n s = .ok (some key) → MacEntryReady env key p s) :
    MacState none (neighborAttributeCommit env p n true s) := by
  have honly := macOnly_neighborMacEntryRemove env p s
  obtain ⟨-, hoff⟩ := neighborMacEntryRemove_state env h hp hflag
  exact neighborMacEntry_rewrite h hp hflag hplace howner hready hoff ((honly.live p).mpr hp)
    (congrArg Nh.place (honly.nh p)) honly.rif rfl

variable (env) in

theorem neighborDepEncapNhListUpdate_sameMac (p) (attr_info) (flags)
    (s) : SameMac s (neighborDepEncapNhListUpdate env p attr_info flags s) := by
  unfold neighborDepEncapNhListUpdate
  exact SameMac.of_frame (P := fun _ => False)
    (@EncapWrites.frame env _ _ _ (.foldl (fun _ _ t => .call rfl t) s)) fun _ h => h.elim

theorem neighborAttributeSet_mac (h : MacState none s)
    {attr} (hclean : NeighborSetClean env entry attr s) :
    MacState none (neighborAttributeSet env entry attr s).2 := by
  unfold neighborAttributeSet
  split
  · exact h
  rename_i p hget
  obtain ⟨hlive, -, hflag⟩ := neighborNodeGet_ok h.toNodeTrees hget
  split
  · exact h
  rename_i copy flags hfill
  have hfields := neighborInfoFill_ok hfill
  obtain ⟨hkeep_mac, hkeep_action⟩ := neighborInfoFill_flags hfill
  simp only at hfields hkeep_mac hkeep_action
  have hport : ∀ n, (if isMacEntryResolved flags (s.nh p) then
      neighborPortIdResolve env copy s else .ok copy) = .ok n →
      n = { copy with port_id := n.port_id, port_unresolved := n.port_unresolved } := by
    intro n hn
    split at hn
    · exact neighborPortIdResolve_ok hn
    · cases hn
      rfl
  simp only
  split
  · exact h
  rename_i n hn
  have hn := hport n hn
  have hplace : n.place = (s.nh p).place := by
    rw [hn, hfields]
    rfl
  have howner : n.owner_flag.neighbor = true := by
    rw [hn, hfields]
    exact hflag
  have hcopy : ∀ u : Fib, neighborMacEntryKey n u = neighborMacEntryKey copy u := fun u =>
    neighborMacEntryKey_congr (by rw [hn]) rfl (by rw [hn]) (by rw [hn])
  by_cases hnpu : env.status (.neighborAttrSet n flags) = .success
  · rw [andThen_of_success (x := s.call env _) hnpu]
    have hcall := (SameMac.call env (.neighborAttrSet n flags) s).trans
      (neighborDepEncapNhListUpdate_sameMac env p n flags _)
    have hread : ∀ u, SameMac s u → ∀ m, neighborMacEntryKey m u = neighborMacEntryKey m s :=
      fun u hu m => neighborMacEntryKey_congr rfl (by rw [hu.rif]) rfl rfl
    simp only
    generalize neighborDepEncapNhListUpdate _ p n _ _ = u at hcall ⊢
    have hmid := h.of_same hcall
    have hulive := (hcall.live p).mpr hlive
    have huflag := (hcall.owner p).trans hflag
    have huplace := hplace.trans (hcall.place p).symm
    cases hres : isMacEntryResolved flags (s.nh p) with
    | true =>
      refine neighborAttributeCommit_mac_resolved hmid hulive huflag huplace howner ?_
      intro key hkey
      rw [hread u hcall, hcopy] at hkey
      have hready := hclean.ready p _ _ n key hget hfill hnpu hres hkey
      unfold MacEntryReady at hready ⊢
      rw [hcall.tree]
      exact hready
    | false =>
      refine neighborAttributeCommit_mac_unresolved hmid hulive huflag huplace howner ?_
      have hold : neighborMacEntryKey (u.nh p) u = neighborMacEntryKey (s.nh p) s := by
        rw [hread u hcall]
        exact neighborMacEntryKey_congr (hcall.key p) rfl
          (congrArg PacketAction.isForward (hcall.action p hflag)) (hcall.mac_addr p hflag)
      rw [hold, hread u hcall, hcopy]
      exact neighborMacEntryKey_of_unresolved (by rw [hfields]) hres hkeep_mac hkeep_action
        fun key => hclean.forward p _ _ n key hget hfill hnpu hres
  · rw [andThen_of_failure (x := s.call env _) hnpu]
    exact h.of_same (SameMac.call env _ s)

end MacState

/-! ## Runs -/

/-- The calls on next hops and neighbors. Anything may fail in them but a MAC entry that has
to be there for a neighbor to come back to, or to move to. -/
inductive MacCall : Call → Fib → Prop where
  | nextHopCreate {env : Env} {attr_list : List NextHopAttr} {s : Fib} :
      MacCall ⟨env, .nextHopCreate attr_list⟩ s
  | nextHopRemove {env : Env} {next_hop_id : Oid} {s : Fib} :
      MacCall ⟨env, .nextHopRemove next_hop_id⟩ s
  | neighborCreate {env : Env} {entry : NeighborEntry} {attr_list : List NeighborAttr} {s : Fib} :
      MacCall ⟨env, .neighborCreate entry attr_list⟩ s
  | neighborRemove {env : Env} {entry : NeighborEntry} {s : Fib}
      (hclean : NeighborRemoveClean env entry s) : MacCall ⟨env, .neighborRemove entry⟩ s
  | neighborAttributeSet {env : Env} {entry : NeighborEntry} {attr : NeighborAttr} {s : Fib}
      (hclean : NeighborSetClean env entry attr s) :
      MacCall ⟨env, .neighborAttributeSet entry attr⟩ s

theorem MacState.step {c} (hc : MacCall c s) (h : MacState none s) :
    MacState none (fibStep c s) := by
  cases hc with
  | nextHopCreate => exact nextHopCreate_mac h _
  | nextHopRemove => exact nextHopRemove_mac h _
  | neighborCreate => exact neighborCreate_mac h _ _
  | neighborRemove hclean => exact neighborRemove_mac h hclean
  | neighborAttributeSet hclean => exact neighborAttributeSet_mac h hclean

theorem NoNextHops.macState (h : NoNextHops s) (hmac : ∀ key, s.neighbor_mac_tree key = none) :
    MacState none s := by
  have hflag : ∀ p, (s.nh p).owner_flag.neighbor = false := fun p => neighbor_of_dead (h.nhs p)
  refine ⟨h.nodeState.toNodeTrees, fun p hp => ?_, fun k l hl => ?_, fun k => ?_, fun k p => ?_⟩
  · rw [hflag p] at hp
    simp at hp
  · rw [hmac k] at hl
    simp at hl
  · unfold values
    rw [hmac k]
    exact List.nodup_nil
  · unfold values
    rw [hmac k, macOf_of_not_neighbor (hflag p)]
    simp

/-- The MAC tree is the index of the forwarded neighbors on VLAN router interfaces. -/
structure NeighborMacIndex (s : Fib) : Prop where
  once : ∀ vlan_id mac_addr p,
    (values s.neighbor_mac_tree ⟨vlan_id, mac_addr⟩).count p = 1 ↔
      (s.nh p).owner_flag.neighbor = true ∧
        (∃ rif, s.rif (s.nh p).key.rif_id = some rif ∧ rif.type = .vlan ∧
          rif.attachment = vlan_id) ∧
        (s.nh p).packet_action.isForward = true ∧ (s.nh p).mac_addr = mac_addr
  one_list : ∀ key key' p, p ∈ values s.neighbor_mac_tree key →
    p ∈ values s.neighbor_mac_tree key' → key = key'
  nonempty : ∀ key l, s.neighbor_mac_tree key = some l → l ≠ []
  live : ∀ key p, p ∈ values s.neighbor_mac_tree key → s.NhLive p

theorem MacState.neighborMacIndex (h : MacState none s) : NeighborMacIndex s := by
  have hindex : IndexOf s.neighbor_mac_tree (macOf s) := h.index.congr fun _ => by simp
  refine ⟨fun vlan_id mac_addr p => ?_, fun _ _ p => hindex.mem_unique, hindex.nonempty,
    fun key p hp => ?_⟩
  · rw [hindex.count_eq_one, macOf_eq_some, neighborMacEntryKey_eq_some]
  · by_contra hdead
    rw [hindex.mem, macOf_of_not_neighbor (neighbor_of_dead hdead)] at hp
    simp at hp

/-- **The MAC tree is the index** in every state that calls on next hops and neighbors reach,
as long as no call takes a neighbor off forwarding behind its MAC entry. -/
theorem neighborMacIndex_of_run {s t : Fib} (hs : NoNextHops s)
    (hmac : ∀ key, s.neighbor_mac_tree key = none) (hrun : FibRun MacCall s t) :
    NeighborMacIndex t :=
  (hrun.induct (P := MacState none) (fun _ _ h hc => MacState.step hc h)
    (hs.macState hmac)).neighborMacIndex

/-- A neighbor on a VLAN that is dropped instead of forwarded to stays on its MAC entry, and
when it is removed it is still there. -/
theorem not_neighborMacIndex_drop :
    NoNextHops (oneRif .vlan ⟨.vlan, 10⟩) ∧
      (∀ key, (oneRif .vlan ⟨.vlan, 10⟩).neighbor_mac_tree key = none) ∧
      ¬ NeighborMacIndex (fibStep ⟨Env.good 1, .neighborAttributeSet oneNeighbor (.packetAction 0)⟩
        (fibStep ⟨Env.good 1, .neighborCreate oneNeighbor [.dstMacAddress 7]⟩
          (oneRif .vlan ⟨.vlan, 10⟩))) ∧
      ¬ NeighborMacIndex (fibStep ⟨Env.good 1, .neighborRemove oneNeighbor⟩
        (fibStep ⟨Env.good 1, .neighborAttributeSet oneNeighbor (.packetAction 0)⟩
          (fibStep ⟨Env.good 1, .neighborCreate oneNeighbor [.dstMacAddress 7]⟩
            (oneRif .vlan ⟨.vlan, 10⟩)))) := by
  refine ⟨noNextHops_oneRif _ _, fun _ => rfl, fun h => ?_, fun h => ?_⟩
  · obtain ⟨-, -, haction, -⟩ := (h.once ⟨.vlan, 10⟩ 7 1).mp (by decide)
    revert haction
    decide
  · have hlive := h.live ⟨⟨.vlan, 10⟩, 7⟩ 1 (by decide)
    revert hlive
    unfold NhLive
    decide

theorem neighborSetClean_dstMacAddress {env} (henv : env.AllSucceed)
    (entry) (mac) (s) :
    NeighborSetClean env entry (.dstMacAddress mac) s := by
  refine ⟨fun nh n flags info key _ hfill _ hres _ => ?_, fun nh n flags info key _ _ _ _ _ =>
    .inr ⟨henv.avail _, henv.avail _, henv.status _⟩⟩
  have hflags : flags.dest_mac = true := by
    unfold neighborInfoFill at hfill
    simp only [attrListParse, neighborAttrSet] at hfill
    by_cases hmac : mac = 0
    · simp [hmac] at hfill
    simp only [hmac, if_false] at hfill
    split at hfill
    · simp at hfill
    split at hfill
    · simp at hfill
    · cases hfill
      rfl
  simp [isMacEntryResolved, hflags] at hres

theorem neighborMacIndex_of_run_oneNeighbor :
    NeighborMacIndex (fibStep ⟨Env.good 1, .neighborRemove oneNeighbor⟩
      (fibStep ⟨Env.good 1, .neighborAttributeSet oneNeighbor (.dstMacAddress 8)⟩
        (fibStep ⟨Env.good 1, .neighborCreate oneNeighbor [.dstMacAddress 7]⟩
          (oneRif .vlan ⟨.vlan, 10⟩)))) :=
  neighborMacIndex_of_run (noNextHops_oneRif _ _) (fun _ => rfl)
    (.snoc _ (.snoc _ (.snoc _ (.nil _) .neighborCreate)
      (.neighborAttributeSet (neighborSetClean_dstMacAddress Env.good_allSucceed _ _ _)))
      (.neighborRemove fun _ _ _ _ => .inl rfl))

end OpxSai
