import OpxSai.Lib.Run
import OpxSai.Routing.RefCount
import OpxSai.Tunnel.TermTunnels

/-!
# Termination entries are all or nothing

An entry is in its tree, on the list of its tunnel and in the NPU, and has its id; a VXLAN entry has one
reference to the next hop with its key. A call that fails changes none of it.

A remove takes the entry out of the tree and gives the reference back before it asks the NPU. When the NPU
refuses the next hop, the entry does not come back; when it refuses the entry, the reference does not.

* `TermOpFits`, `termsExact_of_run` — the condition, and that the property holds in every run under it.
-/

namespace OpxSai

open TunnelDb

variable {term : TunnelTerm} {tunnel : TunnelObj} {o : Oid} {i max_id : Nat}

/-! ## Property -/

inductive TermOp where
  | tunnelCreate (env : TunnelEnv) (attr_list : List TunnelAttr)
  | tunnelRemove (env : TunnelEnv) (tunnel_id : Oid)
  | termCreate (env : TermEnv) (attr_list : List TermAttr)
  | termRemove (env : TermEnv) (term_id : Oid)

/-- A step. A call that reads through a null pointer does nothing. -/
def termStep (max_id : Nat) : TermOp → TunnelDb → TunnelDb
  | .tunnelCreate env attr_list, db => (tunnelCreate max_id env attr_list db).2.2
  | .tunnelRemove env tunnel_id, db => (tunnelRemove env tunnel_id db).2
  | .termCreate env attr_list, db => (tunnelTermCreate env max_id attr_list db).elim db fun x => x.2.2
  | .termRemove env term_id, db => (tunnelTermRemove env term_id db).elim db Prod.snd

namespace TunnelDb

def termHas (db : TunnelDb) (key : NhKey) (term : TunnelTerm) : Bool :=
  decide (term.tunnel_type = .vxlan) &&
    decide ((db.tunnelObjGet term.tunnel_id).map (encapNhKey term.src_ip) = some key)

def termsOn (db : TunnelDb) (key : NhKey) : Nat := db.terms.countP fun x => db.termHas key x.2

def termTunnel (db : TunnelDb) (o : Oid) : Option Oid := (db.termGet o).map TunnelTerm.tunnel_id

end TunnelDb

structure TermsSame (db db' : TunnelDb) : Prop where
  terms : ∀ o, db'.termGet o = db.termGet o
  lists : ∀ t, (db'.tunnelObjGet t).map TunnelObj.tunnel_term_entry_list =
    (db.tunnelObjGet t).map TunnelObj.tunnel_term_entry_list
  ids : db'.term_id_bitmap = db.term_id_bitmap
  refs : ∀ key, encapRefs key db'.fib = encapRefs key db.fib
  npu : db'.npu_terms = db.npu_terms

structure TermEnv.RemoveSucceeds (env : TermEnv) : Prop where
  outside : ∀ log c, env.outside log c = .success
  nh : ∀ nh, env.fib.status (.nexthopRemove nh) = .success

variable {env : TermEnv}

/-- **Termination entries are all or nothing**, and so are the calls that are to come. -/
structure TermsExact (max_id : Nat) (fits : TermOp → TunnelDb → Prop) (db : TunnelDb) : Prop where
  npu : ∀ o, db.npu_terms o = (db.termGet o).isSome
  ids : ∀ o, (db.termGet o).isSome = true ↔ ∃ i, o = termId i ∧ db.term_id_bitmap i = false
  listed : ∀ t tunnel o, db.tunnelObjGet t = some tunnel →
    tunnel.tunnel_term_entry_list.count o = if db.termTunnel o = some t then 1 else 0
  placed : ∀ o term, db.termGet o = some term → (db.tunnelObjGet term.tunnel_id).isSome = true ∨
    (term.tunnel_id = .null ∧ term.tunnel_type ≠ .vxlan)
  refs : ∀ key, encapRefs key db.fib = db.termsOn key
  createFails : ∀ env attr_list x, fits (.termCreate env attr_list) db →
    tunnelTermCreate env max_id attr_list db = some x → x.1 ≠ .success → TermsSame db x.2.2
  removeFails : ∀ env o x, fits (.termRemove env o) db → tunnelTermRemove env o db = some x →
    x.1 ≠ .success → TermsSame db x.2
  retry : ∀ env env' o term x, fits (.termRemove env o) db → tunnelTermRemove env o db = some x →
    x.1 ≠ .success → db.termGet o = some term → env'.RemoveSucceeds →
      ∃ y, tunnelTermRemove env' o x.2 = some y ∧ y.1 = .success ∧ y.2.termGet o = none ∧
        ∀ key, encapRefs key x.2.fib = encapRefs key y.2.fib + if db.termHas key term = true then 1 else 0

/-- **When a step keeps the entries exact.** A create can take back what it did; in a remove the NPU lets the
next hop go, and the entry of a VXLAN tunnel, and the tree takes any other entry back. -/
def TermOpFits : TermOp → TunnelDb → Prop
  | .tunnelCreate _ _, _ | .tunnelRemove _ _, _ => True
  | .termCreate env attr_list, db => TermTakesBack env attr_list db
  | .termRemove env term_id, db => TermLetsGo env term_id db

/-! ## The invariant -/

structure TermsInv (db : TunnelDb) : Prop where
  fib : EncapFib db.fib
  null : db.fib.vrf .null = none
  homes : ∀ t tunnel, db.tunnelObjGet t = some tunnel → TunnelHome tunnel db.fib
  refs : ∀ key, encapRefs key db.fib = db.termsOn key
  keyed : Tree.Keyed db.terms
  npu : ∀ o, db.npu_terms o = (db.termGet o).isSome
  used : ∀ i, db.term_id_bitmap i = false → (db.termGet (termId i)).isSome = true
  ids : ∀ o, (db.termGet o).isSome = true → o = termId o.id ∧ db.term_id_bitmap o.id = false
  listed : ∀ t tunnel o, db.tunnelObjGet t = some tunnel →
    tunnel.tunnel_term_entry_list.count o = if db.termTunnel o = some t then 1 else 0
  placed : ∀ o term, db.termGet o = some term → (db.tunnelObjGet term.tunnel_id).isSome = true ∨
    (term.tunnel_id = .null ∧ term.tunnel_type ≠ .vxlan)

theorem TermFibBack.refsKept {attr_list} {db db'}
    (h : TermFibBack env attr_list db db') (hfib : EncapFib db.fib) : RefsKept db.fib db'.fib := by
  cases h with
  | kept h _ => exact h.refsKept hfib
  | undone term tunnel u _ _ _ _ htaken hgiven =>
    have hu := htaken.fib hfib rfl
    refine ⟨hgiven.fib hu, fun key => ?_, fun r => (hgiven.homes r).trans (htaken.homes r),
      fun v => (hgiven.vrfs v).trans (htaken.vrfs v)⟩
    have htake := htaken.refs hfib rfl key
    have hgive := hgiven.refs hu key
    change encapRefs key u = encapRefs key db.fib + if key = encapNhKey term.src_ip tunnel then 1 else 0 at htake
    omega

section Steps

variable {db db' : TunnelDb}

theorem termHas_congr (hkey : ∀ ip, (db'.tunnelObjGet term.tunnel_id).map (encapNhKey ip) =
      (db.tunnelObjGet term.tunnel_id).map (encapNhKey ip)) (key) :
    db'.termHas key term = db.termHas key term := by
  unfold termHas
  rw [hkey]

theorem termsOn_congr (hterms : db'.terms = db.terms)
    (hkey : ∀ x ∈ db.terms, ∀ ip, (db'.tunnelObjGet x.2.tunnel_id).map (encapNhKey ip) =
      (db.tunnelObjGet x.2.tunnel_id).map (encapNhKey ip)) (key) :
    db'.termsOn key = db.termsOn key := by
  unfold termsOn
  rw [hterms]
  exact List.countP_congr fun x hx => by rw [termHas_congr (hkey x hx)]

theorem TermsInv.kept (h : TermsInv db) (hkept : TermKept db db') (hfib : RefsKept db.fib db'.fib) :
    TermsInv db' := by
  have hget : ∀ t, db'.tunnelObjGet t = db.tunnelObjGet t := fun t => by
    rw [tunnelObjGet, tunnelObjGet, hkept.tunnels]
  have hterm : ∀ o, db'.termGet o = db.termGet o := fun o => by
    rw [termGet, termGet, hkept.terms]
  refine ⟨hfib.fib, hfib.null h.null, fun t tunnel ht => ?_, fun key => ?_, ?_, fun o => ?_, fun i hi => ?_,
    fun o ho => ?_, fun t tunnel o ht => ?_, fun o term ho => ?_⟩
  · exact (h.homes t _ (hget t ▸ ht)).moved hfib.homes hfib.vrfs
  · rw [hfib.refs, h.refs, termsOn_congr hkept.terms fun x _ ip => by rw [hget]]
  · rw [hkept.terms]
    exact h.keyed
  · rw [hkept.npu, hterm]
    exact h.npu o
  · rw [hterm]
    exact h.used i (hkept.bitmap ▸ hi)
  · rw [hkept.bitmap]
    exact h.ids o (hterm o ▸ ho)
  · rw [termTunnel, hterm]
    exact h.listed t _ o (hget t ▸ ht)
  · rw [hget]
    exact h.placed o _ (hterm o ▸ ho)

theorem TermsInv.free (h : TermsInv db) (hi : db.term_id_bitmap i = true) :
    db.termGet (termId i) = none ∧ db.npu_terms (termId i) = false := by
  have hnone : (db.termGet (termId i)).isSome = false := by
    cases hs : (db.termGet (termId i)).isSome with
    | false => rfl
    | true => exact absurd ((h.ids _ hs).2.symm.trans hi) (by decide)
  exact ⟨by simpa using hnone, (h.npu _).trans hnone⟩

theorem tunnelObjGet_modTunnel (db : TunnelDb) (tunnel_id t : Oid) (f : TunnelObj → TunnelObj) :
    (db.modTunnel tunnel_id f).tunnelObjGet t =
      if t = tunnel_id then (db.tunnelObjGet t).map f else db.tunnelObjGet t :=
  Tree.find_modify ..

theorem map_modTunnel {γ : Type} {g : TunnelObj → γ} {f : TunnelObj → TunnelObj} (hf : ∀ t, g (f t) = g t)
    (db : TunnelDb) (tunnel_id t : Oid) :
    ((db.modTunnel tunnel_id f).tunnelObjGet t).map g = (db.tunnelObjGet t).map g := by
  rw [tunnelObjGet_modTunnel]
  split
  · rw [Option.map_map]
    exact congrArg (fun k => Option.map k (db.tunnelObjGet t)) (funext hf)
  · rfl

theorem isSome_modTunnel (f : TunnelObj → TunnelObj) (db : TunnelDb) (tunnel_id t : Oid) :
    ((db.modTunnel tunnel_id f).tunnelObjGet t).isSome = (db.tunnelObjGet t).isSome := by
  rw [tunnelObjGet_modTunnel]
  split
  · exact Option.isSome_map
  · rfl

theorem home_modTunnel {f : TunnelObj → TunnelObj} (hrif : ∀ t, (f t).underlay_rif = t.underlay_rif)
    (hvrf : ∀ t, (f t).underlay_vrf = t.underlay_vrf) {tunnel_id t} {s}
    (hhomes : ∀ t tunnel, db.tunnelObjGet t = some tunnel → TunnelHome tunnel s)
    (ht : (db.modTunnel tunnel_id f).tunnelObjGet t = some tunnel) : TunnelHome tunnel s := by
  rw [tunnelObjGet_modTunnel] at ht
  split at ht
  · obtain ⟨tunnel', ht', rfl⟩ := Option.map_eq_some_iff.mp ht
    exact (hhomes t tunnel' ht').of_eq (hrif tunnel') (hvrf tunnel')
  · exact hhomes t tunnel ht

theorem termHas_vxlan (htype : term.tunnel_type = .vxlan)
    (hget : db.tunnelObjGet term.tunnel_id = some tunnel) {key} :
    db.termHas key term = true ↔ key = encapNhKey term.src_ip tunnel := by
  simp [termHas, htype, hget, eq_comm]

theorem TermFibTaken.taken {env} (h : TermFibTaken env term db db')
    (hfib : EncapFib db.fib) : EncapFib db'.fib ∧
      (∀ r, (db'.fib.rif r).map Rif.vrf_id = (db.fib.rif r).map Rif.vrf_id) ∧
      (∀ v, (db'.fib.vrf v).isSome = (db.fib.vrf v).isSome) ∧
      ∀ key, encapRefs key db'.fib = encapRefs key db.fib + if db.termHas key term = true then 1 else 0 := by
  cases h with
  | plain htype hsame =>
    rw [hsame]
    refine ⟨hfib, fun _ => rfl, fun _ => rfl, fun key => ?_⟩
    rw [if_neg (by simp [termHas, htype])]
    rfl
  | vxlan tunnel htype hget hdoes =>
    refine ⟨hdoes.fib hfib rfl, hdoes.homes, hdoes.vrfs, fun key => ?_⟩
    rw [hdoes.refs hfib rfl, if_congr (termHas_vxlan htype hget) rfl rfl]
    rfl

theorem TermFibGiven.given {env} (h : TermFibGiven env term db db')
    (hfib : EncapFib db.fib) : EncapFib db'.fib ∧
      (∀ r, (db'.fib.rif r).map Rif.vrf_id = (db.fib.rif r).map Rif.vrf_id) ∧
      (∀ v, (db'.fib.vrf v).isSome = (db.fib.vrf v).isSome) ∧
      ∀ key, encapRefs key db.fib = encapRefs key db'.fib + if db.termHas key term = true then 1 else 0 := by
  cases h with
  | plain htype hsame =>
    rw [hsame]
    refine ⟨hfib, fun _ => rfl, fun _ => rfl, fun key => ?_⟩
    rw [if_neg (by simp [termHas, htype])]
    rfl
  | vxlan tunnel htype hget hdoes =>
    refine ⟨hdoes.fib hfib, hdoes.homes, hdoes.vrfs, fun key => ?_⟩
    rw [hdoes.refs hfib, if_congr (termHas_vxlan htype hget) rfl rfl]

theorem TermsInv.added (h : TermsInv db) {env} (hi : db.term_id_bitmap i = true)
    (htunnel : term.tunnel_id = .null ∨ (db.tunnelObjGet term.tunnel_id).isSome = true)
    (hadded : TermAdded i term db db') (htaken : TermFibTaken env term db db') : TermsInv db' := by
  obtain ⟨hfib, hhomes, hvrfs, hrefs⟩ := htaken.taken h.fib
  obtain ⟨hnone, -⟩ := h.free hi
  have hget : ∀ t, db'.tunnelObjGet t =
      (tunnelTermAddToTunnelList (termId i) term.tunnel_id db).tunnelObjGet t := fun t => by
    rw [tunnelObjGet, hadded.tunnels]
    rfl
  have hterm : ∀ o, db'.termGet o = if o = termId i then some term else db.termGet o := fun o => by
    rw [termGet, hadded.terms, Tree.find_insert hnone]
    rfl
  have hkey : ∀ t ip, (db'.tunnelObjGet t).map (encapNhKey ip) = (db.tunnelObjGet t).map (encapNhKey ip) :=
    fun t ip => by
      rw [hget]
      exact map_modTunnel
        (f := fun t => { t with tunnel_term_entry_list := t.tunnel_term_entry_list ++ [termId i] })
        (fun _ => rfl) db term.tunnel_id t
  refine ⟨hfib, ?_, fun t tunnel ht => ?_, fun key => ?_, ?_, fun o => ?_, fun j hj => ?_, fun o ho => ?_,
    fun t tunnel o ht => ?_, fun o term' ho => ?_⟩
  · exact Option.isNone_iff_eq_none.mp (by rw [← Option.not_isSome, hvrfs, h.null]; rfl)
  · rw [hget] at ht
    exact (home_modTunnel
      (f := fun t => { t with tunnel_term_entry_list := t.tunnel_term_entry_list ++ [termId i] })
      (fun _ => rfl) (fun _ => rfl) h.homes ht).moved hhomes hvrfs
  · have hhas : ∀ term', db'.termHas key term' = db.termHas key term' := fun term' =>
      termHas_congr (hkey term'.tunnel_id) key
    rw [hrefs, h.refs, termsOn, termsOn, hadded.terms]
    rw [show (fun x : Oid × TunnelTerm => db'.termHas key x.2) = fun x => db.termHas key x.2 from
      funext fun x => hhas x.2]
    exact (Tree.countP_insert db.terms (termId i) term (db.termHas key)).symm
  · rw [hadded.terms]
    exact h.keyed.insert term hnone
  · rw [hadded.npu, hterm]
    split
    · rfl
    · exact h.npu o
  · rw [hadded.bitmap] at hj
    rw [hterm]
    split
    · rfl
    rename_i hne
    rw [if_neg fun heq => hne (by rw [heq])] at hj
    exact h.used j hj
  · rw [hterm] at ho
    rw [hadded.bitmap]
    split at ho
    next heq =>
      rw [heq]
      exact ⟨rfl, if_pos rfl⟩
    obtain ⟨hid, hbit⟩ := h.ids o ho
    refine ⟨hid, ?_⟩
    split
    · rfl
    · exact hbit
  · -- the list of the tunnel of the entry has it at its end
    rw [hget, tunnelTermAddToTunnelList, tunnelObjGet_modTunnel] at ht
    rw [termTunnel, hterm]
    by_cases heq : t = term.tunnel_id
    · rw [if_pos heq] at ht
      obtain ⟨tunnel', ht', rfl⟩ := Option.map_eq_some_iff.mp ht
      have hcount := h.listed t tunnel' o ht'
      show (tunnel'.tunnel_term_entry_list ++ [termId i]).count o = _
      rw [List.count_append, List.count_singleton, hcount, termTunnel]
      by_cases ho : o = termId i
      · rw [ho, hnone]
        simp [heq]
      have hne : (termId i == o) = false := by simpa using Ne.symm ho
      rw [hne, if_neg ho]
      rfl
    · rw [if_neg heq] at ht
      rw [h.listed t tunnel o ht, termTunnel]
      by_cases ho : o = termId i
      · rw [ho, hnone]
        simp [Ne.symm heq]
      · rw [if_neg ho]
  · rw [hget, tunnelTermAddToTunnelList, isSome_modTunnel]
    rw [hterm] at ho
    split at ho
    · cases ho
      rcases htunnel with hnull | hlive
      · by_cases hlive : (db.tunnelObjGet term.tunnel_id).isSome = true
        · exact .inl hlive
        refine .inr ⟨hnull, ?_⟩
        cases htaken with
        | plain htype _ => exact htype
        | vxlan tunnel _ ht _ => exact absurd (by rw [ht]; rfl) hlive
      · exact .inl hlive
    · exact h.placed o term' ho

theorem TermsInv.restored (h : TermsInv db) (ho : db.termGet o = some term)
    (hback : TermRestored o term db db') : TermsInv db' ∧ TermsSame db db' := by
  have hnone : Tree.find (Tree.erase db.terms o) o = none := by
    rw [Tree.find_erase, if_pos rfl]
  have hterm : ∀ o', db'.termGet o' = db.termGet o' := fun o' => by
    rw [termGet, hback.terms, Tree.find_insert hnone, Tree.find_erase]
    by_cases heq : o' = o
    · rw [if_pos heq, heq]
      exact ho.symm
    · rw [if_neg heq, if_neg heq]
      rfl
  have hget : ∀ t, db'.tunnelObjGet t = db.tunnelObjGet t := fun t => by
    rw [tunnelObjGet, tunnelObjGet, hback.tunnels]
  refine ⟨⟨hback.fib ▸ h.fib, hback.fib ▸ h.null, fun t tunnel ht => hback.fib ▸ h.homes t _ (hget t ▸ ht),
    fun key => ?_, ?_, fun o' => ?_, fun j hj => ?_, fun o' ho' => ?_, fun t tunnel o' ht => ?_,
    fun o' term' ho' => ?_⟩, hterm, fun t => by rw [hget], hback.bitmap, fun key => by rw [hback.fib], hback.npu⟩
  · have hhas : ∀ term', db'.termHas key term' = db.termHas key term' := fun term' =>
      termHas_congr (fun ip => by rw [hget]) key
    have herase := Tree.countP_erase h.keyed (Tree.mem_of_find ho) (db.termHas key)
    rw [hback.fib, h.refs, termsOn, termsOn, hback.terms]
    rw [show (fun x : Oid × TunnelTerm => db'.termHas key x.2) = fun x => db.termHas key x.2 from
      funext fun x => hhas x.2]
    rw [Tree.countP_insert _ o _ _]
    exact herase
  · rw [hback.terms]
    exact (h.keyed.erase o).insert _ hnone
  · rw [hback.npu, hterm]
    exact h.npu o'
  · rw [hterm]
    exact h.used j (hback.bitmap ▸ hj)
  · rw [hback.bitmap]
    exact h.ids o' (hterm o' ▸ ho')
  · rw [termTunnel, hterm]
    exact h.listed t _ o' (hget t ▸ ht)
  · rw [hget]
    exact h.placed o' _ (hterm o' ▸ ho')

theorem TermsInv.dropped (h : TermsInv db) {env}
    (ho : db.termGet o = some term) (hdropped : TermDropped o term db db')
    (hgiven : TermFibGiven env term db db') : TermsInv db' := by
  obtain ⟨hfib, hhomes, hvrfs, hrefs⟩ := hgiven.given h.fib
  obtain ⟨hid, -⟩ := h.ids o (by rw [ho]; rfl)
  have hget : ∀ t, db'.tunnelObjGet t =
      (tunnelTermRemoveFromTunnelList o term.tunnel_id db).tunnelObjGet t := fun t => by
    rw [tunnelObjGet, hdropped.tunnels]
    rfl
  have hterm : ∀ o', db'.termGet o' = if o' = o then none else db.termGet o' := fun o' => by
    rw [termGet, hdropped.terms, Tree.find_erase]
    rfl
  have hkey : ∀ t ip, (db'.tunnelObjGet t).map (encapNhKey ip) = (db.tunnelObjGet t).map (encapNhKey ip) :=
    fun t ip => by
      rw [hget]
      exact map_modTunnel
        (f := fun t => { t with tunnel_term_entry_list := t.tunnel_term_entry_list.erase o })
        (fun _ => rfl) db term.tunnel_id t
  refine ⟨hfib, ?_, fun t tunnel ht => ?_, fun key => ?_, ?_, fun o' => ?_, fun j hj => ?_, fun o' ho' => ?_,
    fun t tunnel o' ht => ?_, fun o' term' ho' => ?_⟩
  · exact Option.isNone_iff_eq_none.mp (by rw [← Option.not_isSome, hvrfs, h.null]; rfl)
  · rw [hget] at ht
    exact (home_modTunnel
      (f := fun t => { t with tunnel_term_entry_list := t.tunnel_term_entry_list.erase o })
      (fun _ => rfl) (fun _ => rfl) h.homes ht).moved hhomes hvrfs
  · have hhas : ∀ term', db'.termHas key term' = db.termHas key term' := fun term' =>
      termHas_congr (hkey term'.tunnel_id) key
    have herase := Tree.countP_erase h.keyed (Tree.mem_of_find ho) (db.termHas key)
    have hall := hrefs key
    rw [h.refs, termsOn, herase] at hall
    rw [termsOn, hdropped.terms]
    rw [show (fun x : Oid × TunnelTerm => db'.termHas key x.2) = fun x => db.termHas key x.2 from
      funext fun x => hhas x.2]
    exact (Nat.add_right_cancel hall).symm
  · rw [hdropped.terms]
    exact h.keyed.erase o
  · rw [hdropped.npu, hterm]
    split
    · rfl
    · exact h.npu o'
  · rw [hdropped.bitmap] at hj
    split at hj
    · cases hj
    rename_i hne
    rw [hterm, if_neg fun heq => hne (congrArg Oid.id heq)]
    exact h.used j hj
  · rw [hterm] at ho'
    split at ho'
    · cases ho'
    rename_i hne
    obtain ⟨hid', hbit⟩ := h.ids o' ho'
    refine ⟨hid', ?_⟩
    rw [hdropped.bitmap, if_neg]
    · exact hbit
    · intro heq
      exact hne (hid'.trans ((congrArg termId heq).trans hid.symm))
  · -- the list of the tunnel of the entry has it once, and then no more
    rw [hget, tunnelTermRemoveFromTunnelList, tunnelObjGet_modTunnel] at ht
    rw [termTunnel, hterm]
    by_cases heq : t = term.tunnel_id
    · rw [if_pos heq] at ht
      obtain ⟨tunnel', ht', rfl⟩ := Option.map_eq_some_iff.mp ht
      have hcount := h.listed t tunnel' o' ht'
      show (tunnel'.tunnel_term_entry_list.erase o).count o' = _
      by_cases ho' : o' = o
      · rw [ho'] at hcount
        rw [ho', List.count_erase_self, hcount, termTunnel, ho, if_pos rfl]
        simp [heq]
      · rw [List.count_erase_of_ne ho', hcount, termTunnel, if_neg ho']
    · rw [if_neg heq] at ht
      rw [h.listed t tunnel o' ht, termTunnel]
      by_cases ho' : o' = o
      · rw [ho', ho]
        simp [Ne.symm heq]
      · rw [if_neg ho']
  · rw [hget, tunnelTermRemoveFromTunnelList, isSome_modTunnel]
    rw [hterm] at ho'
    split at ho'
    · cases ho'
    · exact h.placed o' term' ho'

theorem TermsInv.tunnels (h : TermsInv db) (hterms : db'.terms = db.terms)
    (hbitmap : db'.term_id_bitmap = db.term_id_bitmap) (hnpu : db'.npu_terms = db.npu_terms)
    (hfib : NhsKept db.fib db'.fib)
    (hold : ∀ o term, db.termGet o = some term →
      db'.tunnelObjGet term.tunnel_id = db.tunnelObjGet term.tunnel_id)
    (hnew : ∀ t tunnel, db'.tunnelObjGet t = some tunnel → db.tunnelObjGet t = some tunnel ∨
      (db.tunnelObjGet t = none ∧ tunnel.tunnel_term_entry_list = [] ∧ TunnelHome tunnel db.fib)) :
    TermsInv db' := by
  have hrefs := hfib.refsKept h.fib
  have hterm : ∀ o, db'.termGet o = db.termGet o := fun o => by
    rw [termGet, termGet, hterms]
  refine ⟨hrefs.fib, hrefs.null h.null, fun t tunnel ht => ?_, fun key => ?_, ?_, fun o => ?_,
    fun i hi => ?_, fun o ho => ?_, fun t tunnel o ht => ?_, fun o term ho => ?_⟩
  · rcases hnew t tunnel ht with ht | ⟨-, -, hhome⟩
    · exact (h.homes t _ ht).moved hrefs.homes hrefs.vrfs
    · exact hhome.moved hrefs.homes hrefs.vrfs
  · rw [hrefs.refs, h.refs, termsOn_congr hterms fun x hx ip => ?_]
    rw [hold x.1 x.2 (Tree.find_of_mem h.keyed hx)]
  · rw [hterms]
    exact h.keyed
  · rw [hnpu, hterm]
    exact h.npu o
  · rw [hterm]
    exact h.used i (hbitmap ▸ hi)
  · rw [hbitmap]
    exact h.ids o (hterm o ▸ ho)
  · rw [termTunnel, hterm]
    rcases hnew t tunnel ht with hsame | ⟨hnone, hlist, -⟩
    · exact h.listed t _ o hsame
    rw [hlist, if_neg]
    · rfl
    intro heq
    obtain ⟨term, ho, hid⟩ := Option.map_eq_some_iff.mp heq
    have hthere := hold o term ho
    rw [hid, ht, hnone] at hthere
    cases hthere
  · rw [hterm] at ho
    rw [hold o term ho]
    exact h.placed o _ ho

theorem TermsInv.tunnelCreate (h : TermsInv db) {env} {attr_list} :
    TermsInv (tunnelCreate max_id env attr_list db).2.2 := by
  rcases @tunnelCreate_terms env db max_id attr_list h.fib.toNodePlaces h.null with
    ⟨hkept, hfib⟩ | ⟨i, tunnel, hnew⟩
  · exact h.kept hkept (by rw [hfib]; exact .refl h.fib)
  · have hget : ∀ t, (OpxSai.tunnelCreate max_id env attr_list db).2.2.tunnelObjGet t =
        if t = tunnelId i then some tunnel else db.tunnelObjGet t := fun t => by
      rw [tunnelObjGet, hnew.tunnels, Tree.find_insert hnew.fresh]
      rfl
    refine h.tunnels hnew.terms hnew.bitmap hnew.npu hnew.nodes (fun o term ho => ?_) fun t tunnel' ht => ?_
    · rw [hget, if_neg]
      intro heq
      rcases h.placed o _ ho with hlive | ⟨hnull, -⟩
      · rw [heq, hnew.fresh] at hlive
        cases hlive
      · exact absurd (hnull.symm.trans heq) (by simp [tunnelId, uoidCreate, Oid.null])
    · rw [hget] at ht
      split at ht
      next heq =>
        cases ht
        exact .inr ⟨heq ▸ hnew.fresh, hnew.list, hnew.home⟩
      · exact .inl ht

theorem TermsInv.tunnelRemove (h : TermsInv db) (env) (tunnel_id) :
    TermsInv (tunnelRemove env tunnel_id db).2 := by
  rcases @tunnelRemove_terms env db tunnel_id h.fib.toNodePlaces with
    ⟨-, hsame⟩ | ⟨tunnel, hgone | ⟨-, hback⟩⟩
  · rw [hsame]
    exact h
  · have hget : ∀ t, (OpxSai.tunnelRemove env tunnel_id db).2.tunnelObjGet t =
        if t = tunnel_id then none else db.tunnelObjGet t := fun t => by
      rw [tunnelObjGet, hgone.tunnels, Tree.find_erase]
      rfl
    refine h.tunnels hgone.terms hgone.bitmap hgone.npu hgone.nodes (fun o term ho => ?_) fun t tunnel' ht => ?_
    · rw [hget, if_neg]
      intro heq
      have hcount := h.listed _ _ o hgone.get
      rw [hgone.list, termTunnel, ho, if_pos (by rw [← heq]; rfl)] at hcount
      cases hcount
    · rw [hget] at ht
      split at ht
      · cases ht
      · exact .inl ht
  · have hnone : Tree.find (Tree.erase db.tunnels tunnel_id) tunnel_id = none := by
      rw [Tree.find_erase, if_pos rfl]
    have hget : ∀ t, (OpxSai.tunnelRemove env tunnel_id db).2.tunnelObjGet t = db.tunnelObjGet t := fun t => by
      rw [tunnelObjGet, hback.tunnels, Tree.find_insert hnone, Tree.find_erase]
      by_cases heq : t = tunnel_id
      · rw [if_pos heq, heq]
        exact hback.get.symm
      · rw [if_neg heq, if_neg heq]
        rfl
    exact h.tunnels hback.terms hback.bitmap hback.npu hback.nodes (fun o term _ => hget _)
      fun t tunnel' ht => .inl (hget t ▸ ht)

/-! ## A call on entries -/

theorem TermsInv.same (h : TermsInv db) (hkept : TermKept db db') (hfib : RefsKept db.fib db'.fib) :
    TermsInv db' ∧ TermsSame db db' := by
  refine ⟨h.kept hkept hfib, fun o => ?_, fun t => ?_, hkept.bitmap, hfib.refs, hkept.npu⟩
  · rw [termGet, termGet, hkept.terms]
  · rw [tunnelObjGet, tunnelObjGet, hkept.tunnels]

theorem TermsInv.termCreate (h : TermsInv db) {attr_list}
    (hfits : TermTakesBack env attr_list db) {x}
    (hx : tunnelTermCreate env max_id attr_list db = some x) :
    TermsInv x.2.2 ∧ (x.1 ≠ .success → TermsSame db x.2.2) := by
  rcases tunnelTermCreate_cases _ h.fib h.homes (fun i hi => h.free hi) hfits hx with
    ⟨hfail, hkept, hback⟩ | ⟨hok, i, term, hi, -, hset, hadded, htaken⟩
  · obtain ⟨hinv, hsame⟩ := h.same hkept (hback.refsKept h.fib)
    exact ⟨hinv, fun _ => hsame⟩
  · exact ⟨h.added hi (tunnelTermAttrSet_tunnel (.inl rfl) hset) hadded htaken,
      fun hfail => absurd hok hfail⟩

theorem TermsInv.refs_ne_zero (h : TermsInv db)
    (ho : db.termGet o = some term) (htype : term.tunnel_type = .vxlan)
    (hget : db.tunnelObjGet term.tunnel_id = some tunnel) :
    encapRefs (encapNhKey term.src_ip tunnel) db.fib ≠ 0 := by
  rw [h.refs, termsOn, Tree.countP_erase h.keyed (Tree.mem_of_find ho) _,
    if_pos ((termHas_vxlan htype hget).mpr rfl)]
  omega

/-- **A remove** keeps the invariant, and changes nothing where it fails. -/
theorem TermsInv.termRemove (h : TermsInv db) (hfits : TermLetsGo env o db)
    {x} (hx : tunnelTermRemove env o db = some x) :
    TermsInv x.2 ∧ (x.1 ≠ .success → TermsSame db x.2 ∧ x.2.tunnels = db.tunnels) := by
  rcases tunnelTermRemove_cases h.fib (fun term tunnel ho htype hget => h.refs_ne_zero ho htype hget) hfits hx with
    ⟨-, hsame, -⟩ | ⟨term, ho, ⟨-, -, hback⟩ | ⟨hok, hdropped, hgiven⟩⟩
  · rw [hsame]
    exact ⟨h, fun _ => ⟨⟨fun _ => rfl, fun _ => rfl, rfl, fun _ => rfl, rfl⟩, rfl⟩⟩
  · obtain ⟨hinv, hsame⟩ := h.restored ho hback
    exact ⟨hinv, fun _ => ⟨hsame, hback.tunnels⟩⟩
  · exact ⟨h.dropped ho hdropped hgiven, fun hfail => absurd hok hfail⟩

theorem TermsInv.termRemove_some (h : TermsInv db) {env} {o} :
    ∃ x, tunnelTermRemove env o db = some x := by
  simp only [tunnelTermRemove]
  split
  · exact ⟨_, rfl⟩
  cases ho : db.termGet o with
  | none => exact ⟨_, rfl⟩
  | some term =>
    simp only [tunnelTermNhTeardown, tunnelTermNh]
    split
    · exact ⟨_, rfl⟩
    rename_i htype
    rcases h.placed o _ ho with hlive | ⟨-, hplain⟩
    · obtain ⟨tunnel, ht⟩ := Option.isSome_iff_exists.mp hlive
      change (db.dropTerm o).tunnelObjGet term.tunnel_id = some tunnel at ht
      rw [ht]
      exact ⟨_, rfl⟩
    · exact absurd hplain htype

/-- **A remove all of whose steps succeed** takes the entry and one reference with it. -/
theorem TermsInv.termRemove_succeeds (h : TermsInv db) (henv : env.RemoveSucceeds)
    (ho : db.termGet o = some term) :
    ∃ y, tunnelTermRemove env o db = some y ∧ y.1 = .success ∧ y.2.termGet o = none ∧
      ∀ key, encapRefs key db.fib = encapRefs key y.2.fib + if db.termHas key term = true then 1 else 0 := by
  obtain ⟨y, hy⟩ := h.termRemove_some
  have hfits : TermLetsGo env o db :=
    ⟨fun _ log _ hbad => absurd (henv.outside log _) hbad, fun _ _ _ _ _ _ => henv.nh⟩
  have hid := (h.ids o (by rw [ho]; rfl)).1
  rcases tunnelTermRemove_cases h.fib (fun term tunnel ho htype hget => h.refs_ne_zero ho htype hget) hfits hy with
    ⟨-, -, htype | hnone⟩ | ⟨term', ho', ⟨-, ⟨log, hbad⟩, -⟩ | ⟨hok, hdropped, hgiven⟩⟩
  · exact absurd (by rw [hid]; rfl) htype
  · rw [ho] at hnone
    cases hnone
  · exact absurd (henv.outside log _) hbad
  · rw [ho] at ho'
    cases ho'
    refine ⟨y, hy, hok, ?_, (hgiven.given h.fib).2.2.2⟩
    rw [termGet, hdropped.terms, Tree.find_erase, if_pos rfl]

end Steps

theorem termStep_inv {op} {db} (h : TermsInv db) (hfits : TermOpFits op db) :
    TermsInv (termStep max_id op db) := by
  cases op with
  | tunnelCreate env attr_list => exact h.tunnelCreate
  | tunnelRemove env tunnel_id => exact h.tunnelRemove env _
  | termCreate env attr_list =>
    rw [termStep]
    cases hx : tunnelTermCreate env max_id attr_list db with
    | none => exact h
    | some x => exact (h.termCreate hfits hx).1
  | termRemove env term_id =>
    rw [termStep]
    cases hx : tunnelTermRemove env term_id db with
    | none => exact h
    | some x => exact (h.termRemove hfits hx).1

theorem TermsInv.exact {db} (h : TermsInv db) (max_id : Nat) : TermsExact max_id TermOpFits db where
  npu := h.npu
  ids := fun o => by
    refine ⟨fun ho => ⟨o.id, h.ids o ho⟩, ?_⟩
    rintro ⟨i, rfl, hi⟩
    exact h.used i hi
  listed := h.listed
  placed := h.placed
  refs := h.refs
  createFails := fun _ _ _ hfits hx => (h.termCreate hfits hx).2
  removeFails := fun _ _ _ hfits hx hfail => ((h.termRemove hfits hx).2 hfail).1
  retry := fun env env' o term x hfits hx hfail ho henv' => by
    obtain ⟨hinv, hfailed⟩ := h.termRemove hfits hx
    obtain ⟨hsame, htunnels⟩ := hfailed hfail
    obtain ⟨y, hy, hok, hnone, hrefs⟩ := hinv.termRemove_succeeds henv' ((hsame.terms o).trans ho)
    have hhas : ∀ key, x.2.termHas key term = db.termHas key term := fun key =>
      termHas_congr (fun ip => by rw [tunnelObjGet, tunnelObjGet, htunnels]) key
    exact ⟨y, hy, hok, hnone, fun key => by rw [hrefs key, hhas key]⟩

/-! ## Runs -/

theorem TermsInv.initial {fib} (h : NoNextHops fib) (hnull : fib.vrf .null = none)
    (bridges : Oid → Option Nat) : TermsInv (.initial fib bridges) := by
  have hstate := h.nodeState
  have hkept : NhsKept fib (TunnelDb.initial fib bridges).fib :=
    (NhsKept.refl hstate.toNodeTrees.nodePlaces).setTunnels _
  have hdead : ∀ p, ¬ (TunnelDb.initial fib bridges).fib.NhLive p := h.nhs
  refine ⟨⟨hkept.places, fun p hp => absurd hp (hdead p), fun p => ?_⟩, hnull, fun t tunnel ht => ?_,
    fun key => ?_, List.nodup_nil, fun o => rfl, fun i hi => ?_, fun o ho => ?_, fun t tunnel o ht => ?_,
    fun o term ho => ?_⟩
  · rw [Fib.nh_of_not_live (hdead p)]
    rfl
  · cases ht
  · exact encapRefs_of_none (fun p hp => absurd hp (hdead p)) hkept.places
  · cases hi
  · cases ho
  · cases ht
  · cases ho

/-- **Termination entries are all or nothing**, in every run of steps that keep them so. -/
theorem termsExact_of_run (max_id : Nat) {fib : Fib} (hfib : NoNextHops fib) (hnull : fib.vrf .null = none)
    (bridges : Oid → Option Nat) {db : TunnelDb}
    (hrun : Run (termStep max_id) TermOpFits (.initial fib bridges) db) : TermsExact max_id TermOpFits db :=
  (hrun.induct (fun op _ h hfits => termStep_inv h hfits)
    (TermsInv.initial hfib hnull _)).exact _

def oneTunnelAttrs : List TunnelAttr :=
  [.type .vxlan, .underlayInterface ⟨.routerInterface, 1⟩, .encapMappers (some []), .decapMappers (some [])]

def oneTermAttrs : List TermAttr :=
  [.tunnelType .vxlan, .srcIp (.ip4 2), .actionTunnelId (tunnelId 1)]

theorem termsExact_of_run_once :
    TermsExact 4 TermOpFits (termStep 4 (.termRemove .good (termId 1)) (termStep 4 (.termCreate .good oneTermAttrs)
      (termStep 4 (.tunnelCreate .good oneTunnelAttrs) (.initial oneRifDefaults fun _ => none)))) := by
  have htunnel : Run (termStep 4) TermOpFits (.initial oneRifDefaults fun _ => none) _ :=
    .one (.tunnelCreate .good oneTunnelAttrs) (by trivial)
  have hterm := htunnel.snoc (.termCreate .good oneTermAttrs)
    (by exact ⟨fun _ _ hbad => absurd rfl hbad, fun _ _ _ _ _ _ _ _ => rfl⟩)
  have hremove := hterm.snoc (.termRemove .good (termId 1))
    (by exact ⟨fun _ _ _ hbad => absurd rfl hbad, fun _ _ _ _ _ _ _ => rfl⟩)
  exact termsExact_of_run 4 noReferences_oneRifDefaults.toNoNextHops rfl _ hremove

/-- The NPU keeps the entry of a tunnel that is to go: the entry stays, without its reference. -/
theorem not_termsExact : ¬ ∀ (max_id : Nat) (fib : Fib) (bridges : Oid → Option Nat) (db : TunnelDb),
    NoNextHops fib → fib.vrf .null = none →
      Run (termStep max_id) (fun _ _ => True) (.initial fib bridges) db →
        TermsExact max_id (fun _ _ => True) db := by
  intro h
  have htunnel : Run (termStep 4) (fun _ _ => True) (.initial oneRifDefaults fun _ => none) _ :=
    .one (.tunnelCreate .good oneTunnelAttrs) trivial
  have hterm := htunnel.snoc (.termCreate .good oneTermAttrs) trivial
  have hremove := hterm.snoc (.termRemove { TermEnv.good with
    outside := fun _ c => if c = .termEntryRemove (termId 1) false then .failure else .success } (termId 1)) trivial
  have hrefs := (h 4 _ _ _ noReferences_oneRifDefaults.toNoNextHops rfl hremove).refs
    ⟨.tunnelEncap, .ip4 2, ⟨.routerInterface, 1⟩, 2⟩
  revert hrefs
  decide

end OpxSai
