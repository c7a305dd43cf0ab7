import OpxSai.Tunnel.EncapOwners
import OpxSai.Tunnel.TermExact

/-!
# Encap next hops live as long as they are needed

A tunnel encap next hop has two kinds of owners. Termination entries count in it, and a user who created it
has its id. A remove of the user asks for the count; the last entry that goes does not ask for the user, and
takes the next hop of the user with it.

* `EncapOpFits`, `encapExact_of_run` — the condition, and that the property holds in every run under it.
-/

namespace OpxSai

open TunnelDb Fib
variable {env : TunnelEnv} {max_id : Nat}

/-! ## The system -/

/-- The state, and the next hops that users created and have not removed, each with its id and its key. -/
structure EncapSys where
  db : TunnelDb
  users : List (Oid × NhKey)

inductive EncapOp where
  | terms (op : TermOp)
  | nhCreate (env : Env) (attr_list : List NextHopAttr)
  | nhRemove (env : Env) (next_hop_id : Oid)

def usersAfterCreate (env : Env) (attr_list : List NextHopAttr) (sys : EncapSys) : List (Oid × NhKey) :=
  match (nextHopCreate env attr_list sys.db.fib).2, nextHopInfoFill env attr_list nextHopDefaultAttr sys.db.fib with
  | some id, .ok nh_info => (id, nh_info.key) :: sys.users
  | _, _ => sys.users

def usersAfterRemove (env : Env) (next_hop_id : Oid) (sys : EncapSys) : List (Oid × NhKey) :=
  match (nextHopRemove env next_hop_id sys.db.fib).1, sys.db.fib.nh_id_tree next_hop_id with
  | .success, some nh => sys.users.erase (next_hop_id, (sys.db.fib.nh nh).key)
  | _, _ => sys.users

def encapStep (max_id : Nat) : EncapOp → EncapSys → EncapSys
  | .terms op, sys => { sys with db := termStep max_id op sys.db }
  | .nhCreate env attr_list, sys =>
    ⟨{ sys.db with fib := (nextHopCreate env attr_list sys.db.fib).1.2 }, usersAfterCreate env attr_list sys⟩
  | .nhRemove env next_hop_id, sys =>
    ⟨{ sys.db with fib := (nextHopRemove env next_hop_id sys.db.fib).2 }, usersAfterRemove env next_hop_id sys⟩

/-- There is a next hop with a key. -/
def Fib.HasNh (s : Fib) (key : NhKey) : Prop := ∃ p, s.NhLive p ∧ (s.nh p).key = key

/-- **Encap next hops live as long as they are needed**, and so do those of users in the removes that are to
come. -/
structure EncapExact (fits : EncapOp → EncapSys → Prop) (sys : EncapSys) : Prop where
  lives : ∀ key, sys.db.fib.HasNh key ↔ (∃ id, (id, key) ∈ sys.users) ∨ 0 < sys.db.termsOn key
  refs : ∀ key, encapRefs key sys.db.fib = sys.db.termsOn key
  ids : ∀ id p, sys.db.fib.nh_id_tree id = some p → sys.db.fib.NhLive p
  users : ∀ env o x id key, fits (.terms (.termRemove env o)) sys → tunnelTermRemove env o sys.db = some x →
    (id, key) ∈ sys.users → x.2.fib.HasNh key
  unnamed : ∀ env t p, (tunnelRemove env t sys.db).1 = .success → sys.db.fib.NhLive p →
    (sys.db.fib.nh p).isTunnelEncap = true → (sys.db.fib.nh p).tunnel_id ≠ t

/-- No user has the next hop of an entry, where there are so many references to it. -/
def NoUserHas (term : TunnelTerm) (refs : Nat) (sys : EncapSys) : Prop :=
  ∀ tunnel, term.tunnel_type = .vxlan → sys.db.tunnelObjGet term.tunnel_id = some tunnel →
    encapRefs (encapNhKey term.src_ip tunnel) sys.db.fib = refs →
      ∀ id, (id, encapNhKey term.src_ip tunnel) ∉ sys.users

/-- The last reference that an entry gives back is not to the next hop of a user. -/
def TermOpLeavesUsers : TermOp → EncapSys → Prop
  | .tunnelCreate _ _, _ | .tunnelRemove _ _, _ => True
  | .termCreate env attr_list, sys => ∀ term, tunnelTermAttrSet sys.db 0 attr_list .zero = .ok term →
    TermRefused env → NoUserHas term 0 sys
  | .termRemove _ term_id, sys => ∀ term, sys.db.termGet term_id = some term → NoUserHas term 1 sys

/-- **When a step keeps the next hops that are needed.** A call on entries keeps the entries exact and leaves
the users their next hops, and a create of a user that the id tree refuses is taken back. -/
def EncapOpFits : EncapOp → EncapSys → Prop
  | .terms op, sys => TermOpFits op sys.db ∧ TermOpLeavesUsers op sys
  | .nhCreate env _, sys => NextHopCreateClean env sys.db.fib
  | .nhRemove _ _, _ => True

/-- `sai_tunnel_object_id_validate` accepts only the ids of tunnels. -/
def TunnelIdsValidated : EncapOp → EncapSys → Prop
  | .nhCreate env _, sys => ∀ oid, env.status (.tunnelObjectIdValidate oid) = .success →
    (sys.db.tunnelObjGet oid).isSome = true
  | _, _ => True

/-! ## The invariant -/

/-- The entries are exact, each next hop has an owner, and each tunnel has a list. -/
structure EncapInv (sys : EncapSys) : Prop where
  terms : TermsInv sys.db
  owned : EncapOwned none sys.users sys.db.fib
  lists : ∀ t, (sys.db.fib.tunnels t).isSome = (sys.db.tunnelObjGet t).isSome

theorem SetupDoes.present {env} {node} {s t} (h : SetupDoes env node s t) (o) :
    (t.tunnels o).isSome = (s.tunnels o).isSome := by
  cases h with
  | found p _ _ ht =>
    subst ht
    rfl
  | made p u _ _ htunnels ht =>
    subst ht
    show (u.tunnels o).isSome = _
    rw [htunnels, tunnelsOf_isSome]

theorem TeardownDoes.present {env} {key} {s t} (h : TeardownDoes env key s t) (o) :
    (t.tunnels o).isSome = (s.tunnels o).isSome := by
  cases h with
  | held p _ _ _ ht =>
    subst ht
    rfl
  | gone p _ _ _ _ htunnels => rw [htunnels, tunnelsOf_isSome]

section Steps

variable {sys : EncapSys} {db' : TunnelDb}

theorem EncapOwned.sameLists {but} {users} {s t}
    (h : EncapOwned but users s) (hkept : NhsKept s t) (htunnels : t.tunnels = s.tunnels) :
    EncapOwned but users t := by
  refine h.kept hkept fun q tunnel_id => ?_
  unfold EncapListed
  rw [htunnels]
  exact id

theorem EncapInv.tunnelCreate (h : EncapInv sys) {attr_list} :
    EncapInv ⟨(tunnelCreate max_id env attr_list sys.db).2.2, sys.users⟩ := by
  refine ⟨h.terms.tunnelCreate, ?_, fun t => ?_⟩
  all_goals
    rcases @tunnelCreate_terms env sys.db max_id attr_list h.terms.fib.toNodePlaces h.terms.null with
      ⟨hkept, hfib⟩ | ⟨i, tunnel, hnew⟩
  · show EncapOwned none sys.users (OpxSai.tunnelCreate max_id env attr_list sys.db).2.2.fib
    rw [hfib]
    exact h.owned
  · refine h.owned.kept hnew.nodes fun q tunnel_id hq => ?_
    obtain ⟨tunnel', htunnel, hmem⟩ := hq
    refine ⟨tunnel', ?_, hmem⟩
    rw [hnew.nhs]
    refine (if_neg fun heq => ?_).trans htunnel
    have hlist := h.lists tunnel_id
    rw [htunnel, heq, hnew.fresh] at hlist
    cases hlist
  · show ((OpxSai.tunnelCreate max_id env attr_list sys.db).2.2.fib.tunnels t).isSome = _
    rw [hfib, tunnelObjGet, hkept.tunnels]
    exact h.lists t
  · show ((OpxSai.tunnelCreate max_id env attr_list sys.db).2.2.fib.tunnels t).isSome = _
    rw [hnew.nhs, tunnelObjGet, hnew.tunnels, Tree.find_insert hnew.fresh]
    dsimp only
    split
    · rfl
    · exact h.lists t

theorem EncapInv.tunnelRemove (h : EncapInv sys) {tunnel_id} :
    EncapInv ⟨(tunnelRemove env tunnel_id sys.db).2, sys.users⟩ := by
  have hterms := h.terms.tunnelRemove env tunnel_id
  rcases @tunnelRemove_terms env sys.db tunnel_id h.terms.fib.toNodePlaces with
    ⟨-, hsame⟩ | ⟨tunnel, hgone | ⟨-, hback⟩⟩
  · rw [hsame]
    exact h
  · generalize OpxSai.tunnelRemove _ _ _ = x at hterms hgone
    refine ⟨hterms, h.owned.kept hgone.nodes fun q t hq => ?_, fun t => ?_⟩
    · obtain ⟨tunnel', htunnel, hmem⟩ := hq
      refine ⟨tunnel', ?_, hmem⟩
      rw [hgone.nhs]
      refine (if_neg fun heq => ?_).trans htunnel
      have hnone := hgone.unused
      rw [encapNhs, ← heq, htunnel] at hnone
      rw [show tunnel'.tunnel_encap_nh_list = [] from hnone] at hmem
      cases hmem
    · show (x.2.fib.tunnels t).isSome = _
      rw [hgone.nhs, tunnelObjGet, hgone.tunnels, Tree.find_erase]
      dsimp only
      split
      · rfl
      · exact h.lists t
  · generalize OpxSai.tunnelRemove _ _ _ = x at hterms hback
    refine ⟨hterms, h.owned.kept hback.nodes fun q t hq => ?_, fun t => ?_⟩
    · obtain ⟨tunnel', htunnel, hmem⟩ := hq
      unfold EncapListed
      rw [hback.nhs]
      dsimp only
      split
      next heq =>
        refine ⟨_, rfl, ?_⟩
        show q ∈ encapNhs sys.db tunnel_id
        rw [encapNhs, ← heq, htunnel]
        exact hmem
      · exact ⟨tunnel', htunnel, hmem⟩
    · show (x.2.fib.tunnels t).isSome = _
      have hnone : Tree.find (Tree.erase sys.db.tunnels tunnel_id) tunnel_id = none := by
        rw [Tree.find_erase, if_pos rfl]
      rw [hback.nhs, tunnelObjGet, hback.tunnels, Tree.find_insert hnone, Tree.find_erase]
      dsimp only
      split
      · rfl
      · exact h.lists t

theorem EncapInv.listed (h : EncapInv sys) {t} {tunnel}
    (ht : sys.db.tunnelObjGet t = some tunnel) :
    (sys.db.fib.tunnels t).isSome = true := by
  rw [h.lists, ht]
  rfl

theorem EncapInv.termCreate (h : EncapInv sys) {env} {attr_list}
    (hfits : TermTakesBack env attr_list sys.db)
    (husers : TermOpLeavesUsers (.termCreate env attr_list) sys) {x}
    (hx : tunnelTermCreate env max_id attr_list sys.db = some x) : EncapInv ⟨x.2.2, sys.users⟩ := by
  have hterms := (h.terms.termCreate hfits hx).1
  rcases tunnelTermCreate_cases max_id h.terms.fib h.terms.homes (fun i hi => h.terms.free hi) hfits hx with
    ⟨-, hkept, hback⟩ | ⟨-, i, term, -, -, -, hadded, htaken⟩
  · have hget : ∀ t, x.2.2.tunnelObjGet t = sys.db.tunnelObjGet t := fun t => by
      rw [tunnelObjGet, tunnelObjGet, hkept.tunnels]
    cases hback with
    | kept hnodes htunnels =>
      refine ⟨hterms, h.owned.sameLists hnodes htunnels, fun t => ?_⟩
      rw [htunnels, hget]
      exact h.lists t
    | undone term tunnel u hset hrefused htype ht htaken hgiven =>
      have hsetup := htaken.owned h.owned fun _ => h.listed ht
      refine ⟨hterms, hgiven.owned hsetup (htaken.fib h.terms.fib rfl) fun hone => ?_, fun t => ?_⟩
      · -- the reference that goes was the first
        have hrefs := htaken.refs h.terms.fib rfl (encapNhKey term.src_ip tunnel)
        change encapRefs _ u = _ + (if encapNhKey term.src_ip tunnel = encapNhKey term.src_ip tunnel then 1 else 0)
          at hrefs
        rw [if_pos rfl] at hrefs
        exact husers term hset hrefused tunnel htype ht (by omega)
      · rw [hgiven.present, htaken.present, hget]
        exact h.lists t
  · refine ⟨hterms, ?_, fun t => ?_⟩
    · cases htaken with
      | plain _ hfib =>
        show EncapOwned none sys.users x.2.2.fib
        rw [hfib]
        exact h.owned
      | vxlan tunnel _ ht hdoes => exact hdoes.owned h.owned fun _ => h.listed ht
    · have hget : (x.2.2.tunnelObjGet t).isSome = (sys.db.tunnelObjGet t).isSome := by
        rw [tunnelObjGet, hadded.tunnels]
        exact isSome_modTunnel _ _ _ t
      rw [hget, ← h.lists]
      cases htaken with
      | plain _ hfib =>
        show (x.2.2.fib.tunnels t).isSome = _
        rw [hfib]
      | vxlan tunnel _ _ hdoes => exact hdoes.present t

theorem EncapInv.termRemove (h : EncapInv sys) {env} {o} (hfits : TermLetsGo env o sys.db)
    (husers : TermOpLeavesUsers (.termRemove env o) sys) {x}
    (hx : tunnelTermRemove env o sys.db = some x) : EncapInv ⟨x.2, sys.users⟩ := by
  have hterms := (h.terms.termRemove hfits hx).1
  rcases tunnelTermRemove_cases h.terms.fib (fun term tunnel ho htype hget => h.terms.refs_ne_zero ho htype hget)
    hfits hx with ⟨-, hsame, -⟩ | ⟨term, ho, ⟨-, -, hback⟩ | ⟨-, hdropped, hgiven⟩⟩
  · rw [hsame]
    exact h
  · refine ⟨hterms, ?_, fun t => ?_⟩
    · show EncapOwned none sys.users x.2.fib
      rw [hback.fib]
      exact h.owned
    · show (x.2.fib.tunnels t).isSome = _
      rw [hback.fib, tunnelObjGet, hback.tunnels]
      exact h.lists t
  · refine ⟨hterms, ?_, fun t => ?_⟩
    · cases hgiven with
      | plain _ hfib =>
        show EncapOwned none sys.users x.2.fib
        rw [hfib]
        exact h.owned
      | vxlan tunnel htype ht hdoes =>
        exact hdoes.owned h.owned h.terms.fib (husers term ho tunnel htype ht)
    · have hget : (x.2.tunnelObjGet t).isSome = (sys.db.tunnelObjGet t).isSome := by
        rw [tunnelObjGet, hdropped.tunnels]
        exact isSome_modTunnel _ _ _ t
      rw [hget, ← h.lists]
      cases hgiven with
      | plain _ hfib =>
        show (x.2.fib.tunnels t).isSome = _
        rw [hfib]
      | vxlan tunnel _ _ hdoes => exact hdoes.present t

theorem EncapInv.nhCreate (h : EncapInv sys) {env} {attr_list}
    (hvalid : TunnelIdsValidated (.nhCreate env attr_list) sys) (hfits : NextHopCreateClean env sys.db.fib) :
    EncapInv (encapStep max_id (.nhCreate env attr_list) sys) := by
  obtain ⟨hrefs, hpresent, howned⟩ := nextHopCreate_owned h.terms.fib h.owned hfits
    (fun oid hok => (h.lists oid).trans (hvalid oid hok))
  refine ⟨h.terms.kept ⟨rfl, rfl, rfl, rfl⟩ hrefs, ?_, fun t => (hpresent t).trans (h.lists t)⟩
  show EncapOwned none (usersAfterCreate env attr_list sys) _
  rcases howned with ⟨hnone, howned⟩ | ⟨id, nh_info, hid, hfill, howned⟩
  · rw [usersAfterCreate, hnone]
    exact howned
  · rw [usersAfterCreate, hid, hfill]
    exact howned

theorem EncapInv.nhRemove (h : EncapInv sys) {env} {next_hop_id} :
    EncapInv (encapStep max_id (.nhRemove env next_hop_id) sys) := by
  obtain ⟨hrefs, hpresent, howned⟩ := @nextHopRemove_owned env _ _ h.terms.fib h.owned next_hop_id
  refine ⟨h.terms.kept ⟨rfl, rfl, rfl, rfl⟩ hrefs, ?_, fun t => (hpresent t).trans (h.lists t)⟩
  show EncapOwned none (usersAfterRemove env next_hop_id sys) _
  unfold usersAfterRemove
  rcases howned with ⟨hfail, howned⟩ | ⟨p, hok, hid, howned⟩
  · split
    next hok _ => exact absurd hok hfail
    · exact howned
  · rw [hok, hid]
    exact howned

theorem encapStep_inv {op} (h : EncapInv sys) (hvalid : TunnelIdsValidated op sys)
    (hfits : EncapOpFits op sys) : EncapInv (encapStep max_id op sys) := by
  cases op with
  | terms op =>
    obtain ⟨hterms, husers⟩ := hfits
    cases op with
    | tunnelCreate env attr_list => exact h.tunnelCreate
    | tunnelRemove env tunnel_id => exact h.tunnelRemove
    | termCreate env attr_list =>
      rw [encapStep, termStep]
      cases hx : tunnelTermCreate env max_id attr_list sys.db with
      | none => exact h
      | some x => exact h.termCreate hterms husers hx
    | termRemove env term_id =>
      rw [encapStep, termStep]
      cases hx : tunnelTermRemove env term_id sys.db with
      | none => exact h
      | some x => exact h.termRemove hterms husers hx
  | nhCreate env attr_list => exact h.nhCreate hvalid hfits
  | nhRemove env next_hop_id => exact h.nhRemove

theorem EncapInv.hasNh_iff (h : EncapInv sys) (key) :
    sys.db.fib.HasNh key ↔ (∃ id, (id, key) ∈ sys.users) ∨ 0 < sys.db.termsOn key := by
  rw [← h.terms.refs]
  constructor
  · rintro ⟨p, hp, rfl⟩
    rcases h.owned.owned p hp with hrefs | huser | hbut
    · rw [encapRefs_of_live h.terms.fib.toNodePlaces hp]
      exact .inr (Nat.pos_of_ne_zero hrefs)
    · exact .inl huser
    · cases hbut
  · rintro (⟨id, hmem⟩ | hrefs)
    · exact h.owned.held _ hmem
    · by_contra hnone
      refine Nat.lt_irrefl 0 (hrefs.trans_eq (encapRefs_of_none (fun p hp hkey => ?_) h.terms.fib.toNodePlaces))
      exact hnone ⟨p, hp, hkey⟩

theorem EncapInv.unnamed (h : EncapInv sys) {t}
    (hok : (OpxSai.tunnelRemove env t sys.db).1 = .success) {p} (hp : sys.db.fib.NhLive p)
    (hencap : (sys.db.fib.nh p).isTunnelEncap = true) : (sys.db.fib.nh p).tunnel_id ≠ t := by
  rintro rfl
  obtain ⟨tunnel, htunnel, hmem⟩ := h.owned.named p hp hencap
  have hgone := @tunnelRemove_terms env sys.db (sys.db.fib.nh p).tunnel_id h.terms.fib.toNodePlaces
  rcases hgone with ⟨hfail, -⟩ | ⟨_, hgone | ⟨hfail, -⟩⟩
  · exact hfail hok
  · have hnone := hgone.unused
    rw [encapNhs, htunnel] at hnone
    rw [show tunnel.tunnel_encap_nh_list = [] from hnone] at hmem
    cases hmem
  · exact hfail hok

theorem EncapInv.exact (h : EncapInv sys) : EncapExact EncapOpFits sys where
  lives := h.hasNh_iff
  refs := h.terms.refs
  ids := fun id p hid => (h.owned.ids id p hid).1
  users := fun env o x id key hfits hx hmem => by
    have hafter := h.termRemove hfits.1 hfits.2 hx
    exact (hafter.hasNh_iff key).mpr (.inl ⟨id, hmem⟩)
  unnamed := fun env t p hok hp hencap => h.unnamed hok hp hencap

end Steps

/-! ## Runs -/

theorem EncapInv.initial {fib} (h : NoNextHops fib) (hnull : fib.vrf .null = none)
    {bridges : Oid → Option Nat} : EncapInv ⟨.initial fib bridges, []⟩ := by
  have hdead : ∀ p, ¬ (TunnelDb.initial fib bridges).fib.NhLive p := h.nhs
  refine ⟨.initial h hnull bridges, ⟨fun p hp => absurd hp (hdead p), fun x hx => ?_, List.nodup_nil,
    fun id p hid => ?_, fun p hp => absurd hp (hdead p)⟩, fun t => rfl⟩
  · cases hx
  · rw [show (TunnelDb.initial fib bridges).fib.nh_id_tree id = none from h.ids id] at hid
    cases hid

/-- **Encap next hops live as long as they are needed**, in every run of steps that keep them so. -/
theorem encapExact_of_run (max_id : Nat) {fib : Fib} (hfib : NoNextHops fib) (hnull : fib.vrf .null = none)
    (bridges : Oid → Option Nat) {sys : EncapSys}
    (hrun : Run (encapStep max_id) (fun op sys => TunnelIdsValidated op sys ∧ EncapOpFits op sys)
      ⟨.initial fib bridges, []⟩ sys) : EncapExact EncapOpFits sys :=
  (hrun.induct (fun op _ h hok => encapStep_inv h hok.1 hok.2)
    (EncapInv.initial hfib hnull)).exact

theorem termRemove_leavesUsers {sys} {env} {o} (ip)
    (hterm : (sys.db.termGet o).map TunnelTerm.src_ip = some ip)
    (husers : ip ∉ sys.users.map fun x => x.2.ip_addr) : TermOpLeavesUsers (.termRemove env o) sys := by
  intro term ho tunnel _ _ _ id hmem
  rw [ho] at hterm
  cases hterm
  exact husers (List.mem_map.mpr ⟨_, hmem, rfl⟩)

def oneTunnelEnv : Env :=
  { Env.good 7 with
    status := fun c =>
      match c with
      | .tunnelObjectIdValidate oid => if oid = tunnelId 1 then .success else .invalidObjectId
      | _ => .success }

theorem oneTunnelEnv_validated {sys} (h : (sys.db.tunnelObjGet (tunnelId 1)).isSome = true)
    (attr_list) : TunnelIdsValidated (.nhCreate oneTunnelEnv attr_list) sys := by
  intro oid hok
  change (if oid = tunnelId 1 then Status.success else .invalidObjectId) = .success at hok
  split at hok
  next heq =>
    rw [heq]
    exact h
  · cases hok

def oneEncapNhAttrs (ip_addr : IpAddress) : List NextHopAttr :=
  [.type 2, .ip ip_addr, .routerInterfaceId ⟨.routerInterface, 1⟩, .tunnelId (tunnelId 1)]

def onePlainTunnel : EncapOp :=
  .terms (.tunnelCreate .good [.type .ipinip, .underlayInterface ⟨.routerInterface, 1⟩])

theorem encapExact_of_run_apart :
    EncapExact EncapOpFits (encapStep 4 (.terms (.termRemove .good (termId 1)))
      (encapStep 4 (.terms (.termCreate .good oneTermAttrs))
        (encapStep 4 (.nhCreate oneTunnelEnv (oneEncapNhAttrs (.ip4 3)))
          (encapStep 4 onePlainTunnel ⟨.initial oneRifDefaults fun _ => none, []⟩)))) := by
  have htunnel : Run (encapStep 4) (fun op sys => TunnelIdsValidated op sys ∧ EncapOpFits op sys)
      ⟨.initial oneRifDefaults fun _ => none, []⟩ _ :=
    .one onePlainTunnel (by exact ⟨trivial, trivial, trivial⟩)
  have huser := htunnel.snoc (.nhCreate oneTunnelEnv (oneEncapNhAttrs (.ip4 3)))
    (by exact ⟨oneTunnelEnv_validated (by decide) _, .inr fun _ => rfl⟩)
  have hterm := huser.snoc (.terms (.termCreate .good oneTermAttrs))
    (by
      refine ⟨trivial, ⟨fun _ _ hbad => absurd rfl hbad, fun _ _ _ _ _ _ _ _ => rfl⟩, ?_⟩
      rintro _ _ ⟨log, o, hbad | hbad⟩
      · exact absurd rfl hbad
      · exact absurd rfl hbad)
  have hremove := hterm.snoc (.terms (.termRemove .good (termId 1)))
    (by exact ⟨trivial, ⟨fun _ _ _ hbad => absurd rfl hbad, fun _ _ _ _ _ _ _ => rfl⟩,
      termRemove_leavesUsers (.ip4 2) (by decide) (by decide)⟩)
  exact encapExact_of_run 4 noReferences_oneRifDefaults.toNoNextHops rfl _ hremove

/-- The last entry takes the next hop of a user with it, and the id tree keeps the node. -/
theorem not_encapExact : ¬ ∀ (max_id : Nat) (fib : Fib) (bridges : Oid → Option Nat) (sys : EncapSys),
    NoNextHops fib → fib.vrf .null = none →
      Run (encapStep max_id) TunnelIdsValidated ⟨.initial fib bridges, []⟩ sys →
        EncapExact (fun _ _ => True) sys := by
  intro h
  have htunnel : Run (encapStep 4) TunnelIdsValidated ⟨.initial oneRifDefaults fun _ => none, []⟩ _ :=
    .one onePlainTunnel trivial
  have huser := htunnel.snoc (.nhCreate oneTunnelEnv (oneEncapNhAttrs (.ip4 2)))
    (by exact oneTunnelEnv_validated (by decide) _)
  have hterm := huser.snoc (.terms (.termCreate .good oneTermAttrs)) (by trivial)
  have hremove := hterm.snoc (.terms (.termRemove .good (termId 1))) (by trivial)
  have hlive := (h 4 _ _ _ noReferences_oneRifDefaults.toNoNextHops rfl hremove).ids ⟨.nextHop, 7⟩ 1 (by decide)
  revert hlive
  unfold NhLive
  decide

end OpxSai
