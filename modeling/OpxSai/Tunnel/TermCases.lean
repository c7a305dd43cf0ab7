import OpxSai.Tunnel.EncapRefs
import OpxSai.Tunnel.TunnelFrame

/-!
# What a call on termination entries leaves

A create that fails gives back what it took, and a remove that fails leaves the entry, as long as the calls
that undo something succeed.
-/

namespace OpxSai

open TunnelDb

/-! ## When nothing is left behind -/

/-- The NPU lets the next hop of an entry go, where there are so many references to it. -/
def NhLetsGo (env : Env) (term : TunnelTerm) (refs : Nat) (db : TunnelDb) : Prop :=
  ∀ tunnel, term.tunnel_type = .vxlan → db.tunnelObjGet term.tunnel_id = some tunnel →
    encapRefs (encapNhKey term.src_ip tunnel) db.fib = refs → ∀ nh, env.status (.nexthopRemove nh) = .success

def TermRefused (env : TermEnv) : Prop :=
  ∃ log o, env.outside log (.termEntryCreate o) ≠ .success ∨ env.outside log (.termInsert o) ≠ .success

structure TermTakesBack (env : TermEnv) (attr_list : List TermAttr) (db : TunnelDb) : Prop where
  npu : ∀ log o, env.outside log (.termInsert o) ≠ .success →
    ∀ log', env.outside log' (.termEntryRemove o true) = .success
  nh : ∀ term, tunnelTermAttrSet db 0 attr_list .zero = .ok term → TermRefused env →
    NhLetsGo env.fib term 0 db

/-- An entry that is to go goes; one without a next hop may also stay. -/
structure TermLetsGo (env : TermEnv) (term_id : Oid) (db : TunnelDb) : Prop where
  npu : ∀ term log, db.termGet term_id = some term →
    env.outside log (.termEntryRemove term_id false) ≠ .success → term.tunnel_type ≠ .vxlan ∧
      env.outside (env.outside.log (.termEntryRemove term_id false) log) (.termInsert term_id) = .success
  nh : ∀ term, db.termGet term_id = some term → NhLetsGo env.fib term 1 db

/-! ## What becomes of the entries and of the next hops -/

structure TermKept (db db' : TunnelDb) : Prop where
  terms : db'.terms = db.terms
  tunnels : db'.tunnels = db.tunnels
  bitmap : db'.term_id_bitmap = db.term_id_bitmap
  npu : db'.npu_terms = db.npu_terms

structure TermAdded (i : Nat) (term : TunnelTerm) (db db' : TunnelDb) : Prop where
  terms : db'.terms = Tree.insert db.terms (termId i) term
  tunnels : db'.tunnels = (tunnelTermAddToTunnelList (termId i) term.tunnel_id db).tunnels
  bitmap : ∀ j, db'.term_id_bitmap j = if j = i then false else db.term_id_bitmap j
  npu : ∀ o, db'.npu_terms o = if o = termId i then true else db.npu_terms o

structure TermDropped (o : Oid) (term : TunnelTerm) (db db' : TunnelDb) : Prop where
  terms : db'.terms = Tree.erase db.terms o
  tunnels : db'.tunnels = (tunnelTermRemoveFromTunnelList o term.tunnel_id db).tunnels
  bitmap : ∀ j, db'.term_id_bitmap j = if j = o.id then true else db.term_id_bitmap j
  npu : ∀ o', db'.npu_terms o' = if o' = o then false else db.npu_terms o'

structure TermRestored (o : Oid) (term : TunnelTerm) (db db' : TunnelDb) : Prop where
  terms : db'.terms = Tree.insert (Tree.erase db.terms o) o term
  tunnels : db'.tunnels = db.tunnels
  bitmap : db'.term_id_bitmap = db.term_id_bitmap
  npu : db'.npu_terms = db.npu_terms
  fib : db'.fib = db.fib

/-- A VXLAN entry has a reference to its next hop. -/
inductive TermFibTaken (env : Env) (term : TunnelTerm) (db db' : TunnelDb) : Prop where
  | plain (htype : term.tunnel_type ≠ .vxlan) (hfib : db'.fib = db.fib)
  | vxlan (tunnel : TunnelObj) (htype : term.tunnel_type = .vxlan)
      (hget : db.tunnelObjGet term.tunnel_id = some tunnel)
      (hdoes : SetupDoes env (encapNhNode term.src_ip term.tunnel_id tunnel) db.fib db'.fib)

inductive TermFibGiven (env : Env) (term : TunnelTerm) (db db' : TunnelDb) : Prop where
  | plain (htype : term.tunnel_type ≠ .vxlan) (hfib : db'.fib = db.fib)
  | vxlan (tunnel : TunnelObj) (htype : term.tunnel_type = .vxlan)
      (hget : db.tunnelObjGet term.tunnel_id = some tunnel)
      (hdoes : TeardownDoes env (encapNhKey term.src_ip tunnel) db.fib db'.fib)

/-- No reference is left: none was taken, or it was given back. -/
inductive TermFibBack (env : TermEnv) (attr_list : List TermAttr) (db db' : TunnelDb) : Prop where
  | kept (hkept : NhsKept db.fib db'.fib) (htunnels : db'.fib.tunnels = db.fib.tunnels)
  | undone (term : TunnelTerm) (tunnel : TunnelObj) (u : Fib)
      (hset : tunnelTermAttrSet db 0 attr_list .zero = .ok term) (hrefused : TermRefused env)
      (htype : term.tunnel_type = .vxlan) (hget : db.tunnelObjGet term.tunnel_id = some tunnel)
      (htaken : SetupDoes env.fib (encapNhNode term.src_ip term.tunnel_id tunnel) db.fib u)
      (hgiven : TeardownDoes env.fib (encapNhKey term.src_ip tunnel) u db'.fib)

section Cases

variable {env : TermEnv} {db : TunnelDb}

theorem OnlyMaps.termKept {db db'} (h : OnlyMaps db db') : TermKept db db' :=
  ⟨h.terms, h.tunnels, h.term_id_bitmap, h.npu_terms⟩

theorem TermKept.trans {db db₁ db₂} (h : TermKept db db₁) (k : TermKept db₁ db₂) :
    TermKept db db₂ :=
  ⟨k.terms.trans h.terms, k.tunnels.trans h.tunnels, k.bitmap.trans h.bitmap, k.npu.trans h.npu⟩

/-! ## Attributes -/

theorem tunnelTermAttrSet_congr {db db'} (h : db'.tunnels = db.tunnels)
    (attr_list) : ∀ attr_idx term,
      tunnelTermAttrSet db' attr_idx attr_list term = tunnelTermAttrSet db attr_idx attr_list term := by
  have hstore : ∀ attr term, tunnelTermAttrStore db' attr term = tunnelTermAttrStore db attr term := by
    intro attr term
    cases attr with
    | actionTunnelId oid =>
      show tunnelTermTunnelIdSet db' oid term = tunnelTermTunnelIdSet db oid term
      rw [tunnelTermTunnelIdSet, tunnelTermTunnelIdSet, tunnelObjGet, tunnelObjGet, h]
    | _ => rfl
  induction attr_list with
  | nil => exact fun _ _ => rfl
  | cons attr attr_list ih =>
    intro attr_idx term
    rw [tunnelTermAttrSet, tunnelTermAttrSet, hstore]
    cases tunnelTermAttrStore db attr term with
    | error status => rfl
    | ok term => exact ih _ term

theorem tunnelTermAttrSet_error {attr_list} : ∀ {attr_idx term status},
    tunnelTermAttrSet db attr_idx attr_list term = .error status → status ≠ .success := by
  induction attr_list with
  | nil =>
    intro attr_idx term status hset
    cases hset
  | cons attr attr_list ih =>
    intro attr_idx term status hset
    rw [tunnelTermAttrSet] at hset
    cases hstore : tunnelTermAttrStore db attr term with
    | error rc =>
      rw [hstore] at hset
      cases hset
      have hip : ∀ is_src ipaddr, tunnelTermIpSet is_src ipaddr term = .error rc → rc = .invalidAttrValue 0 := by
        intro is_src ipaddr hip
        unfold tunnelTermIpSet at hip
        split at hip
        · exact (Except.error.inj hip).symm
        · cases hip
      cases attr with
      | vrId oid | type s32 | tunnelType s32 => cases hstore
      | dstIp ipaddr =>
        rw [hip false ipaddr hstore]
        simp [getIndexedRetVal]
      | srcIp ipaddr =>
        rw [hip true ipaddr hstore]
        simp [getIndexedRetVal]
      | actionTunnelId oid =>
        change tunnelTermTunnelIdSet db oid term = .error rc at hstore
        unfold tunnelTermTunnelIdSet at hstore
        split at hstore
        · rw [← Except.error.inj hstore]
          simp [getIndexedRetVal]
        · cases hstore
      | unknown id =>
        rw [← Except.error.inj hstore]
        simp [getIndexedRetVal]
    | ok next =>
      rw [hstore] at hset
      exact ih hset

theorem tunnelTermAttrSet_tunnel {attr_list} : ∀ {attr_idx term term'},
    (term.tunnel_id = .null ∨ (db.tunnelObjGet term.tunnel_id).isSome = true) →
    tunnelTermAttrSet db attr_idx attr_list term = .ok term' →
      term'.tunnel_id = .null ∨ (db.tunnelObjGet term'.tunnel_id).isSome = true := by
  induction attr_list with
  | nil =>
    intro attr_idx term term' hterm hset
    cases hset
    exact hterm
  | cons attr attr_list ih =>
    intro attr_idx term term' hterm hset
    rw [tunnelTermAttrSet] at hset
    cases hstore : tunnelTermAttrStore db attr term with
    | error status =>
      rw [hstore] at hset
      cases hset
    | ok next =>
      rw [hstore] at hset
      refine ih ?_ hset
      have hip : ∀ is_src ipaddr, tunnelTermIpSet is_src ipaddr term = .ok next →
          next.tunnel_id = term.tunnel_id := by
        intro is_src ipaddr hip
        unfold tunnelTermIpSet at hip
        split at hip
        · cases hip
        · rw [← Except.ok.inj hip]
          split <;> rfl
      cases attr with
      | vrId oid | type s32 | tunnelType s32 =>
        cases hstore
        exact hterm
      | dstIp ipaddr =>
        rw [hip false ipaddr hstore]
        exact hterm
      | srcIp ipaddr =>
        rw [hip true ipaddr hstore]
        exact hterm
      | actionTunnelId oid =>
        change tunnelTermTunnelIdSet db oid term = .ok next at hstore
        unfold tunnelTermTunnelIdSet at hstore
        split at hstore
        · cases hstore
        rename_i hthere
        rw [← Except.ok.inj hstore]
        exact .inr (Option.isSome_iff_ne_none.mpr (by simpa using hthere))
      | unknown id => cases hstore

/-! ## The NPU and the tree -/

theorem call_npu_terms (env) {c} {o} {b : Bool}
    (hc : ∀ db' : TunnelDb, db'.apply c = { db' with npu_terms := mark db'.npu_terms o b }) (db) :
    ((db.call env c).1 ≠ .success ∧ OnlyMaps db (db.call env c).2) ∨
    ((db.call env c).1 = .success ∧
      OnlyMaps { db with npu_terms := mark db.npu_terms o b } (db.call env c).2) := by
  simp only [TunnelDb.call, hc]
  split
  next hok => exact .inr ⟨hok, rfl, rfl, rfl, rfl, rfl, rfl, rfl, rfl, rfl, rfl⟩
  next hfail => exact .inl ⟨hfail, rfl, rfl, rfl, rfl, rfl, rfl, rfl, rfl, rfl, rfl⟩

/-- **An entry is registered**, or the NPU has it alone, or nobody has. -/
theorem tunnelTermRegister_cases (env) {i : Nat} (term) (db)
    (hfree : db.termGet (termId i) = none) :
    let x := tunnelTermRegister env i term db
    (x.1 ≠ .success ∧ TermRefused env ∧ x.2.1 = false ∧ OnlyMaps db x.2.2) ∨
    (x.1 ≠ .success ∧ (∃ log, env.outside log (.termInsert (termId i)) ≠ .success) ∧ x.2.1 = true ∧
      OnlyMaps { db with npu_terms := mark db.npu_terms (termId i) true } x.2.2) ∨
    (x.1 = .success ∧ TermAdded i term db x.2.2 ∧ x.2.2.fib = db.fib) := by
  intro x
  have hx : tunnelTermRegister env i term db = x := rfl
  clear_value x
  simp only [tunnelTermRegister] at hx
  have hmade := call_npu_terms (c := .termEntryCreate (termId i)) env.toTunnelEnv (fun _ => rfl) db
  have hanswer : (db.call env.toTunnelEnv (.termEntryCreate (termId i))).1 =
    env.outside db.outside_log (.termEntryCreate (termId i)) := rfl
  generalize db.call _ _ = made at hx hmade hanswer
  rcases hmade with ⟨hfail, honly⟩ | ⟨hok, honly⟩
  · rw [if_pos hfail] at hx
    subst hx
    exact .inl ⟨hfail, ⟨_, _, .inl (hanswer ▸ hfail)⟩, rfl, honly⟩
  rw [if_ok hok] at hx
  have hins := OnlyMaps.call made.2 env.toTunnelEnv (c := .termInsert (termId i)) fun _ => rfl
  have hinsert : (made.2.call env.toTunnelEnv (.termInsert (termId i))).1 =
    env.outside made.2.outside_log (.termInsert (termId i)) := rfl
  generalize made.2.call _ _ = inserted at hx hins hinsert
  have hall := honly.trans hins
  have hnone : inserted.2.termGet (termId i) = none := by
    rw [termGet, hall.terms]
    exact hfree
  split at hx
  next hbad =>
    subst hx
    refine .inr (.inl ⟨by simp, ⟨made.2.outside_log, ?_⟩, rfl, hall⟩)
    rw [← hinsert]
    refine hbad.resolve_right fun hthere => ?_
    rw [hnone] at hthere
    cases hthere
  · subst hx
    refine .inr (.inr ⟨rfl, ⟨?_, ?_, fun j => ?_, fun o => ?_⟩, hall.fib⟩)
    · show Tree.insert inserted.2.terms _ _ = _
      rw [hall.terms]
    · exact congrArg (fun tunnels => Tree.modify tunnels term.tunnel_id fun t =>
        { t with tunnel_term_entry_list := t.tunnel_term_entry_list ++ [termId i] }) hall.tunnels
    · show (if j = i then false else inserted.2.term_id_bitmap j) = _
      rw [hall.term_id_bitmap]
    · show inserted.2.npu_terms o = _
      rw [hall.npu_terms]
      rfl

theorem OnlyMaps.unmarkTerm {db'} {o} (hidle : db.npu_terms o = false)
    (honly : OnlyMaps { db with npu_terms := mark db.npu_terms o true } db')
    (hnpu : ∀ log, env.outside log (.termEntryRemove o true) = .success) :
    OnlyMaps db (db'.call env.toTunnelEnv (.termEntryRemove o true)).2 := by
  have hok : (db'.call env.toTunnelEnv (.termEntryRemove o true)).1 = .success := hnpu _
  obtain ⟨hbad, -⟩ | ⟨-, hcall⟩ := call_npu_terms (c := .termEntryRemove o true) env.toTunnelEnv
    (fun _ => rfl) db'
  · exact absurd hok hbad
  refine ⟨hcall.fib.trans honly.fib, hcall.tunnels.trans honly.tunnels,
    hcall.tunnel_id_bitmap.trans honly.tunnel_id_bitmap, hcall.entries.trans honly.entries,
    hcall.terms.trans honly.terms, hcall.term_id_bitmap.trans honly.term_id_bitmap,
    hcall.bridges.trans honly.bridges, hcall.npu_tunnels.trans honly.npu_tunnels,
    hcall.npu_entries.trans honly.npu_entries, hcall.npu_terms.trans ?_⟩
  show mark db'.npu_terms o false = _
  rw [honly.npu_terms]
  funext o'
  show (if o' = o then false else if o' = o then true else db.npu_terms o') = _
  split
  next heq => rw [heq, hidle]
  · rfl

/-! ## Create -/

/-- **An entry with its attributes** is added, or all is as before. -/
theorem tunnelTermFill_cases {attr_list} (hfib : EncapFib db.fib)
    (hhomes : ∀ t tunnel, db.tunnelObjGet t = some tunnel → TunnelHome tunnel db.fib) {i : Nat}
    (hfree : db.termGet (termId i) = none) (hidle : db.npu_terms (termId i) = false)
    (hfits : TermTakesBack env attr_list db) {term}
    (hset : tunnelTermAttrSet db 0 attr_list .zero = .ok term) {x}
    (hx : tunnelTermFill env i term db = some x) :
    (x.1 ≠ .success ∧ TermKept db x.2.2 ∧ TermFibBack env attr_list db x.2.2) ∨
    (x.1 = .success ∧ x.2.1 = termId i ∧ TermAdded i term db x.2.2 ∧ TermFibTaken env.fib term db x.2.2) := by
  by_cases htype : term.tunnel_type = .vxlan
  · -- a VXLAN entry has a tunnel, and its next hop is set up first
    cases hget : db.tunnelObjGet term.tunnel_id with
    | none => simp [tunnelTermFill, tunnelTermNhSetup, tunnelTermNh, htype, hget] at hx
    | some tunnel =>
      have hsetup := tunnelEncapNhSetup_does env.fib term.src_ip term.tunnel_id hfib (hhomes _ tunnel hget)
      simp only [tunnelTermFill, tunnelTermNhSetup, tunnelTermNh, htype, hget, ne_eq, not_true_eq_false,
        if_false, Option.map_some] at hx
      generalize tunnelEncapNhSetup _ _ _ _ _ = setup at hx hsetup
      rcases hsetup with ⟨hfail, hkept, htunnels⟩ | ⟨hok, hdoes⟩
      · rw [if_pos hfail] at hx
        cases hx
        exact .inl ⟨hfail, ⟨rfl, rfl, rfl, rfl⟩, .kept hkept htunnels⟩
      rw [if_ok hok] at hx
      have hmade := tunnelTermRegister_cases env (i := i) term { db with fib := setup.2 } hfree
      generalize tunnelTermRegister _ i _ _ = made at hx hmade
      have hteardown : ∀ {db' y : TunnelDb}, TermRefused env → OnlyMaps { db with fib := setup.2 } db' →
          (tunnelTermNhTeardown env term db').map Prod.snd = some y →
            TermKept db y ∧ TermFibBack env attr_list db y := by
        intro db' y hrefused honly hy
        have hget' : db'.tunnelObjGet term.tunnel_id = some tunnel := by
          rw [tunnelObjGet, honly.tunnels]
          exact hget
        simp only [tunnelTermNhTeardown, tunnelTermNh, htype, hget', ne_eq, not_true_eq_false, if_false,
          Option.map_some] at hy
        cases hy
        have hrefs := hdoes.refs hfib rfl (encapNhKey term.src_ip tunnel)
        rw [show (encapNhNode term.src_ip term.tunnel_id tunnel).key = encapNhKey term.src_ip tunnel from rfl,
          if_pos rfl] at hrefs
        refine ⟨⟨honly.terms, honly.tunnels, honly.term_id_bitmap, honly.npu_terms⟩, ?_⟩
        have hback := tunnelEncapNhTeardown_does env.fib term.src_ip tunnel
          (hdoes.fib hfib rfl) (by omega)
        rcases hback with ⟨-, hone, ⟨nh, hrefuses⟩, -, -⟩ | ⟨-, hgiven⟩
        · exact absurd (hfits.nh term hset hrefused tunnel htype hget (by omega) nh) hrefuses
        refine .undone term tunnel setup.2 hset hrefused htype hget hdoes ?_
        show TeardownDoes _ _ _ (tunnelEncapNhTeardown env.fib term.src_ip tunnel db'.fib).2
        rw [honly.fib]
        exact hgiven
      rcases hmade with ⟨hfail, hrefused, hnot, honly⟩ | ⟨hfail, ⟨log, hlog⟩, hin, honly⟩ | ⟨hok, hadded, hsame⟩
      · rw [if_pos hfail] at hx
        obtain ⟨y, hy, rfl⟩ := Option.map_eq_some_iff.mp hx
        simp only [tunnelTermUndo, hnot, Bool.false_eq_true, if_false] at hy
        exact .inl ⟨hfail, hteardown hrefused honly hy⟩
      · rw [if_pos hfail] at hx
        obtain ⟨y, hy, rfl⟩ := Option.map_eq_some_iff.mp hx
        simp only [tunnelTermUndo, hin, if_true] at hy
        have hback := @OnlyMaps.unmarkTerm env { db with fib := setup.2 } made.2.2 (termId i) hidle honly
          (hfits.npu log _ hlog)
        exact .inl ⟨hfail, hteardown ⟨log, _, .inr hlog⟩ hback hy⟩
      rw [if_ok hok] at hx
      cases hx
      refine .inr ⟨rfl, rfl, ⟨hadded.terms, hadded.tunnels, hadded.bitmap, hadded.npu⟩,
        .vxlan tunnel htype hget ?_⟩
      show SetupDoes _ _ db.fib made.2.2.fib
      rw [hsame]
      exact hdoes
  · -- any other entry has no next hop
    simp only [tunnelTermFill, tunnelTermNhSetup, tunnelTermNh, ne_eq, htype, not_false_eq_true, if_true,
      not_true_eq_false, if_false] at hx
    have hmade := tunnelTermRegister_cases env (i := i) term db hfree
    generalize tunnelTermRegister _ i _ _ = made at hx hmade
    have hundo : ∀ db' : TunnelDb, (tunnelTermNhTeardown env term db').map Prod.snd = some db' := by
      intro db'
      rw [tunnelTermNhTeardown, tunnelTermNh, if_pos htype]
      rfl
    have hkept : ∀ {db' : TunnelDb}, OnlyMaps db db' → TermKept db db' ∧ TermFibBack env attr_list db db' := by
      intro db' honly
      refine ⟨honly.termKept, .kept ?_ (by rw [honly.fib])⟩
      rw [honly.fib]
      exact .refl hfib.toNodePlaces
    rcases hmade with ⟨hfail, -, hnot, honly⟩ | ⟨hfail, ⟨log, hlog⟩, hin, honly⟩ | ⟨hok, hadded, hsame⟩
    · rw [if_pos hfail] at hx
      simp only [tunnelTermUndo, hnot, Bool.false_eq_true, if_false, hundo, Option.map_some] at hx
      cases hx
      exact .inl ⟨hfail, hkept honly⟩
    · rw [if_pos hfail] at hx
      simp only [tunnelTermUndo, hin, if_true, hundo, Option.map_some] at hx
      cases hx
      exact .inl ⟨hfail, hkept (honly.unmarkTerm hidle (hfits.npu log _ hlog))⟩
    rw [if_ok hok] at hx
    cases hx
    exact .inr ⟨rfl, rfl, hadded, .plain htype hsame⟩

/-- **A create** adds an entry with a free index, or all is as before. -/
theorem tunnelTermCreate_cases (max_id : Nat) {attr_list} (hfib : EncapFib db.fib)
    (hhomes : ∀ t tunnel, db.tunnelObjGet t = some tunnel → TunnelHome tunnel db.fib)
    (hfree : ∀ i, db.term_id_bitmap i = true → db.termGet (termId i) = none ∧ db.npu_terms (termId i) = false)
    (hfits : TermTakesBack env attr_list db) {x}
    (hx : tunnelTermCreate env max_id attr_list db = some x) :
    (x.1 ≠ .success ∧ TermKept db x.2.2 ∧ TermFibBack env attr_list db x.2.2) ∨
    (x.1 = .success ∧ ∃ i term, db.term_id_bitmap i = true ∧ x.2.1 = termId i ∧
      tunnelTermAttrSet db 0 attr_list .zero = .ok term ∧ TermAdded i term db x.2.2 ∧
      TermFibTaken env.fib term db x.2.2) := by
  have hkept : ∀ {db' : TunnelDb}, OnlyMaps db db' → TermKept db db' ∧ TermFibBack env attr_list db db' := by
    intro db' honly
    refine ⟨honly.termKept, .kept ?_ (by rw [honly.fib])⟩
    rw [honly.fib]
    exact .refl hfib.toNodePlaces
  simp only [tunnelTermCreate] at hx
  split at hx
  next hbad =>
    cases hx
    exact .inl ⟨hbad, hkept (.refl db)⟩
  have halloc := OnlyMaps.call db env.toTunnelEnv (c := .nodeAlloc) fun _ => rfl
  generalize db.call _ _ = alloc at hx halloc
  split at hx
  · cases hx
    exact .inl ⟨by simp, hkept halloc⟩
  cases hfind : tunnelIndexFind max_id alloc.2.term_id_bitmap with
  | none =>
    rw [hfind] at hx
    cases hx
    exact .inl ⟨by simp, hkept halloc⟩
  | some i =>
    rw [hfind] at hx
    dsimp only at hx
    have hbit : db.term_id_bitmap i = true := by
      have hsome := List.find?_some hfind
      rw [halloc.term_id_bitmap] at hsome
      exact (Bool.and_eq_true_iff.mp hsome).2
    rw [tunnelTermAttrSet_congr halloc.tunnels] at hx
    cases hset : tunnelTermAttrSet db 0 attr_list .zero with
    | error status =>
      rw [hset] at hx
      cases hx
      exact .inl ⟨tunnelTermAttrSet_error hset, hkept halloc⟩
    | ok term =>
      rw [hset] at hx
      obtain ⟨hnone, hidle⟩ := hfree i hbit
      have hget : ∀ o, alloc.2.tunnelObjGet o = db.tunnelObjGet o := fun o => by
        rw [tunnelObjGet, tunnelObjGet, halloc.tunnels]
      have hfill := @tunnelTermFill_cases env alloc.2 attr_list (halloc.fib ▸ hfib)
        (fun t tunnel ht => halloc.fib ▸ hhomes t tunnel (hget t ▸ ht)) i
        (by rw [termGet, halloc.terms]; exact hnone) (by rw [halloc.npu_terms]; exact hidle)
        ⟨hfits.npu, fun term' hset' hrefused tunnel htype ht hrefs => hfits.nh term'
          ((tunnelTermAttrSet_congr halloc.tunnels ..).symm.trans hset') hrefused tunnel htype (hget _ ▸ ht)
          (halloc.fib ▸ hrefs)⟩
        term ((tunnelTermAttrSet_congr halloc.tunnels ..).trans hset) x hx
      rcases hfill with ⟨hfail, hterms, hback⟩ | ⟨hok, hid, hadded, htaken⟩
      · refine .inl ⟨hfail, halloc.termKept.trans hterms, ?_⟩
        cases hback with
        | kept h htunnels => exact .kept (halloc.fib ▸ h) (by rw [htunnels, halloc.fib])
        | undone term' tunnel u hset' hrefused htype ht htaken hgiven =>
          exact .undone term' tunnel u ((tunnelTermAttrSet_congr halloc.tunnels ..).symm.trans hset') hrefused
            htype (hget _ ▸ ht) (halloc.fib ▸ htaken) hgiven
      refine .inr ⟨hok, i, term, hbit, hid, rfl, ⟨?_, ?_, fun j => ?_, fun o => ?_⟩, ?_⟩
      · rw [hadded.terms, halloc.terms]
      · rw [hadded.tunnels]
        exact congrArg (fun tunnels => Tree.modify tunnels term.tunnel_id fun t =>
          { t with tunnel_term_entry_list := t.tunnel_term_entry_list ++ [termId i] }) halloc.tunnels
      · rw [hadded.bitmap, halloc.term_id_bitmap]
      · rw [hadded.npu, halloc.npu_terms]
      · cases htaken with
        | plain htype hsame => exact .plain htype (hsame.trans halloc.fib)
        | vxlan tunnel htype ht hdoes => exact .vxlan tunnel htype (hget _ ▸ ht) (halloc.fib ▸ hdoes)

/-! ## Remove -/

theorem tunnelTermRemove_cases (hfib : EncapFib db.fib) {o}
    (hrefs : ∀ term tunnel, db.termGet o = some term → term.tunnel_type = .vxlan →
      db.tunnelObjGet term.tunnel_id = some tunnel → encapRefs (encapNhKey term.src_ip tunnel) db.fib ≠ 0)
    (hfits : TermLetsGo env o db) {x} (hx : tunnelTermRemove env o db = some x) :
    (x.1 ≠ .success ∧ x.2 = db ∧ (o.type ≠ .tunnelTermEntry ∨ db.termGet o = none)) ∨
    ∃ term, db.termGet o = some term ∧
      ((x.1 ≠ .success ∧ (∃ log, env.outside log (.termEntryRemove o false) ≠ .success) ∧
          TermRestored o term db x.2) ∨
        (x.1 = .success ∧ TermDropped o term db x.2 ∧ TermFibGiven env.fib term db x.2)) := by
  simp only [tunnelTermRemove] at hx
  split at hx
  next htype =>
    cases hx
    exact .inl ⟨by simp, rfl, .inl htype⟩
  cases hget : db.termGet o with
  | none =>
    rw [hget] at hx
    cases hx
    exact .inl ⟨by simp, rfl, .inr rfl⟩
  | some term =>
    rw [hget] at hx
    obtain ⟨torn, htorn, rfl⟩ := Option.map_eq_some_iff.mp hx
    refine .inr ⟨term, rfl, ?_⟩
    -- the next hop lets go of the entry
    have hgiven : torn.1 = .success ∧ torn.2 = { db.dropTerm o with fib := torn.2.fib } ∧
        TermFibGiven env.fib term db torn.2 := by
      unfold tunnelTermNhTeardown tunnelTermNh at htorn
      split at htorn
      next htype =>
        cases htorn
        exact ⟨rfl, rfl, .plain htype rfl⟩
      rename_i htype
      have htype := Classical.not_not.mp htype
      obtain ⟨tunnel, ht, rfl⟩ := Option.map_eq_some_iff.mp htorn
      change db.tunnelObjGet term.tunnel_id = some tunnel at ht
      rcases tunnelEncapNhTeardown_does _ _ _ hfib
        (hrefs term tunnel hget htype ht) with ⟨-, hone, ⟨nh, hrefuses⟩, -, -⟩ | ⟨hok, hdoes⟩
      · exact absurd (hfits.nh _ hget tunnel htype ht hone nh) hrefuses
      · exact ⟨hok, rfl, .vxlan tunnel htype ht hdoes⟩
    obtain ⟨hok, hsame, hgiven⟩ := hgiven
    rw [if_ok hok]
    generalize htornfib : torn.2.fib = fib at hsame
    generalize torn.2 = db₁ at hsame hgiven htornfib
    simp only [tunnelTermRelease]
    have hremoved := call_npu_terms (c := .termEntryRemove o false) env.toTunnelEnv (fun _ => rfl) db₁
    have hlog : (db₁.call env.toTunnelEnv (.termEntryRemove o false)).2.outside_log =
        env.outside.log (.termEntryRemove o false) db₁.outside_log := by
      simp only [TunnelDb.call]
      split <;> rfl
    have hanswer : (db₁.call env.toTunnelEnv (.termEntryRemove o false)).1 =
      env.outside db₁.outside_log (.termEntryRemove o false) := rfl
    generalize db₁.call _ _ = removed at hremoved hlog hanswer
    rcases hremoved with ⟨hfail, honly⟩ | ⟨hgone, honly⟩
    · rw [if_pos hfail]
      obtain ⟨htype, hinsert⟩ := hfits.npu _ _ hget (hanswer ▸ hfail)
      have hins := OnlyMaps.call removed.2 env.toTunnelEnv (c := .termInsert o) fun _ => rfl
      have hinsok : (removed.2.call env.toTunnelEnv (.termInsert o)).1 = .success := by
        show env.outside removed.2.outside_log _ = _
        rw [hlog]
        exact hinsert
      generalize removed.2.call _ _ = inserted at hins hinsok
      rw [if_pos hinsok]
      have hall := honly.trans hins
      subst hsame
      refine .inl ⟨hfail, ⟨_, hanswer ▸ hfail⟩, ?_, hall.tunnels, hall.term_id_bitmap, hall.npu_terms, ?_⟩
      · show Tree.insert inserted.2.terms o term = _
        rw [hall.terms]
        rfl
      · cases hgiven with
        | plain _ hfib' => exact hall.fib.trans hfib'
        | vxlan _ hvxlan _ _ => exact absurd hvxlan htype
    · rw [if_ok hgone]
      subst hsame
      refine .inr ⟨rfl, ⟨honly.terms, ?_, fun j => ?_, fun o' => ?_⟩, ?_⟩
      · exact congrArg (fun tunnels => Tree.modify tunnels term.tunnel_id fun t =>
          { t with tunnel_term_entry_list := t.tunnel_term_entry_list.erase o }) honly.tunnels
      · show (if j = o.id then true else removed.2.term_id_bitmap j) = _
        rw [honly.term_id_bitmap]
        rfl
      · show removed.2.npu_terms o' = _
        rw [honly.npu_terms]
        rfl
      · have hfib' : removed.2.fib = fib := honly.fib
        cases hgiven with
        | plain htype hplain => exact .plain htype (hfib'.trans hplain)
        | vxlan tunnel htype ht hdoes =>
          refine .vxlan tunnel htype ht ?_
          show TeardownDoes _ _ db.fib removed.2.fib
          rw [hfib']
          exact hdoes

end Cases

end OpxSai
