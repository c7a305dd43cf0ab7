import OpxSai.Lib.Run
import OpxSai.SamplePacket.Session

/-!
# Sample packet — port nodes are live while they are used

The uses of a port node are kept outside the node as well, by who asked for them: whether the
port itself uses it, and how many flows do. The nodes agree with them as long as the NPU library
does not fail for a node that has a use already, and the two kinds of users do not come off a
node that they share.

* `PortTreesOk` — the nodes that are allocated are those in the trees, each in one;
* `PortNodesOk` — the node of a port and direction is there while it is used, and says by whom;
* `portsLive_of_run` — when a run keeps it so.
-/

variable {sid : Oid} {σ : SampleSys} (env : SampleEnv)

namespace OpxSai

open SampleDb
variable {port_id : Oid} {dir : SampleDirection} {mode : SampleMode}

/-! ## Trees and nodes -/

def SampleDb.portAt (db : SampleDb) (session_id : Oid) (key : SamplePortKey) :
    Option (Ptr × SamplePort) :=
  match db.session session_id with
  | none => none
  | some session => db.portGet session key

variable {db : SampleDb}

/-- The nodes that are allocated are those in the trees, each in one tree under a key of its
own. -/
structure PortTreesOk (db : SampleDb) : Prop where
  typed : ∀ sid, (db.session sid).isSome → sid.type = .samplePacket
  live : ∀ p, (db.ports.get p).isSome ↔
    ∃ sid s, db.session sid = some s ∧ p ∈ s.port_tree
  owner : ∀ sid sid' s s' p, db.session sid = some s → db.session sid' = some s' →
    p ∈ s.port_tree → p ∈ s'.port_tree → sid = sid'
  keys : ∀ sid s p q a b, db.session sid = some s → p ∈ s.port_tree → q ∈ s.port_tree →
    db.ports.get p = some a → db.ports.get q = some b → a.key = b.key → p = q

section Trees

variable {s : SampleSession} {key : SamplePortKey} {p : Ptr}
  {port : SamplePort}

theorem modSession_isSome {sid : Oid} (f : SampleSession → SampleSession) {db : SampleDb}
    {sid' : Oid} : ((db.modSession sid f).session sid').isSome ↔ (db.session sid').isSome := by
  show (if sid' = sid then (db.session sid').map f else db.session sid').isSome ↔ _
  split
  · rw [Option.isSome_map]
  · rfl

theorem portGet_some (h : db.portGet s key = some (p, port)) :
    p ∈ s.port_tree ∧ db.ports.get p = some port ∧ port.key = key := by
  obtain ⟨q, hq, hread⟩ := List.exists_of_findSome?_eq_some h
  cases hget : db.ports.get q with
  | none =>
    rw [hget] at hread
    simp at hread
  | some a =>
    rw [hget] at hread
    simp only at hread
    split at hread
    next hkey =>
      cases hread
      exact ⟨hq, hget, hkey⟩
    · simp at hread

theorem portGet_none (h : db.portGet s key = none) (hp : p ∈ s.port_tree)
    (hget : db.ports.get p = some port) : port.key ≠ key := by
  intro hkey
  have hread := List.findSome?_eq_none_iff.mp h p hp
  rw [hget] at hread
  simp [hkey] at hread

theorem portAt_some (h : db.portAt sid key = some (p, port)) :
    ∃ s, db.session sid = some s ∧ p ∈ s.port_tree ∧ db.ports.get p = some port ∧
      port.key = key := by
  unfold portAt at h
  cases hs : db.session sid with
  | none =>
    rw [hs] at h
    simp at h
  | some s =>
    rw [hs] at h
    exact ⟨s, rfl, portGet_some h⟩

namespace PortTreesOk

theorem portAt_eq (h : PortTreesOk db) (hs : db.session sid = some s) (hp : p ∈ s.port_tree)
    (hget : db.ports.get p = some port) : db.portAt sid port.key = some (p, port) := by
  unfold portAt
  rw [hs]
  dsimp only
  cases hfound : db.portGet s port.key with
  | none => exact absurd rfl (portGet_none hfound hp hget)
  | some x =>
    obtain ⟨q, b⟩ := x
    obtain ⟨hq, hb, hkey⟩ := portGet_some hfound
    obtain rfl := h.keys sid s q p b _ hs hq hp hb hget hkey
    rw [hget] at hb
    rw [Option.some.inj hb]

theorem portAt_congr {db'} (h : PortTreesOk db) (h' : PortTreesOk db') {sid'}
    {key'}
    (hsame : ∀ p port, port.key = key' →
      ((∃ s, db.session sid' = some s ∧ p ∈ s.port_tree) ∧ db.ports.get p = some port ↔
        (∃ s, db'.session sid' = some s ∧ p ∈ s.port_tree) ∧ db'.ports.get p = some port)) :
    db'.portAt sid' key' = db.portAt sid' key' := by
  cases hat : db.portAt sid' key' with
  | some x =>
    obtain ⟨p, port⟩ := x
    obtain ⟨s, hs, hp, hget, rfl⟩ := portAt_some hat
    obtain ⟨⟨s', hs', hp'⟩, hget'⟩ := (hsame p port rfl).mp ⟨⟨s, hs, hp⟩, hget⟩
    exact h'.portAt_eq hs' hp' hget'
  | none =>
    cases hat' : db'.portAt sid' key' with
    | none => rfl
    | some x =>
      obtain ⟨p, port⟩ := x
      obtain ⟨s', hs', hp', hget', rfl⟩ := portAt_some hat'
      obtain ⟨⟨s, hs, hp⟩, hget⟩ := (hsame p port rfl).mpr ⟨⟨s', hs', hp'⟩, hget'⟩
      rw [h.portAt_eq hs hp hget] at hat
      simp at hat

theorem call (h : PortTreesOk db) {env} {c} :
    PortTreesOk (db.call env c).2 :=
  ⟨h.typed, h.live, h.owner, h.keys⟩

theorem link (h : PortTreesOk db) (hs : db.session sid = some s)
    (hnone : db.portAt sid key = none) :
    let db' := ({ db with ports := db.ports.alloc (.new key) } : SampleDb).portLink sid
      db.ports.next
    PortTreesOk db' ∧ ∀ sid' key', db'.portAt sid' key' =
      if sid' = sid ∧ key' = key then some (db.ports.next, .new key)
      else db.portAt sid' key' := by
  intro db'
  have hsession : ∀ sid' t, db'.session sid' = some t ↔ (sid' = sid ∧
      t = { s with port_tree := s.port_tree ++ [db.ports.next] }) ∨
      (sid' ≠ sid ∧ db.session sid' = some t) := by
    intro sid' t
    show (if sid' = sid then (db.session sid').map _ else db.session sid') = some t ↔ _
    by_cases hsid : sid' = sid
    · rw [if_pos hsid, hsid, hs]
      simp [eq_comm]
    · rw [if_neg hsid]
      simp [hsid]
  have hin : ∀ sid' q, (∃ t, db'.session sid' = some t ∧ q ∈ t.port_tree) ↔
      (∃ t, db.session sid' = some t ∧ q ∈ t.port_tree) ∨ (sid' = sid ∧ q = db.ports.next) := by
    intro sid' q
    constructor
    · rintro ⟨t, ht, hq⟩
      rcases (hsession sid' t).mp ht with ⟨rfl, rfl⟩ | ⟨-, ht⟩
      · rcases List.mem_append.mp hq with hq | hq
        · exact .inl ⟨s, hs, hq⟩
        · exact .inr ⟨rfl, List.mem_singleton.mp hq⟩
      · exact .inl ⟨t, ht, hq⟩
    · rintro (⟨t, ht, hq⟩ | ⟨rfl, rfl⟩)
      · by_cases hsid : sid' = sid
        · subst hsid
          rw [hs] at ht
          cases ht
          exact ⟨_, (hsession _ _).mpr (.inl ⟨rfl, rfl⟩), List.mem_append_left _ hq⟩
        · exact ⟨t, (hsession _ _).mpr (.inr ⟨hsid, ht⟩), hq⟩
      · exact ⟨_, (hsession _ _).mpr (.inl ⟨rfl, rfl⟩),
          List.mem_append_right _ List.mem_cons_self⟩
  have hget : ∀ q, db'.ports.get q =
      if q = db.ports.next then some (.new key) else db.ports.get q :=
    fun q => Heap.get_alloc _ _ q
  -- the new address is in no tree
  have hfresh : ∀ sid', ¬ ∃ t, db.session sid' = some t ∧ db.ports.next ∈ t.port_tree := by
    rintro sid' ⟨t, ht, hq⟩
    have hsome := (h.live _).mpr ⟨sid', t, ht, hq⟩
    rw [Heap.get_next] at hsome
    simp at hsome
  have hok : PortTreesOk db' := by
    refine ⟨fun sid' hsome => h.typed _ ((modSession_isSome _).mp hsome), fun q => ?_,
      fun sid₁ sid₂ s₁ s₂ q h₁ h₂ hq₁ hq₂ => ?_, fun sid' t q r a b ht hq hr ha hb hkey => ?_⟩
    · have hexists : (∃ sid' t, db'.session sid' = some t ∧ q ∈ t.port_tree) ↔
          (∃ sid' t, db.session sid' = some t ∧ q ∈ t.port_tree) ∨ q = db.ports.next := by
        simp only [hin, exists_or, exists_and_right, exists_eq, true_and]
      rw [hexists, ← h.live q, hget q]
      by_cases hq : q = db.ports.next
      · simp [hq]
      · simp [hq]
    · rcases (hin sid₁ q).mp ⟨s₁, h₁, hq₁⟩ with ⟨t₁, ht₁, hqt₁⟩ | ⟨rfl, rfl⟩
      · rcases (hin sid₂ q).mp ⟨s₂, h₂, hq₂⟩ with ⟨t₂, ht₂, hqt₂⟩ | ⟨rfl, rfl⟩
        · exact h.owner _ _ _ _ q ht₁ ht₂ hqt₁ hqt₂
        · exact absurd ⟨t₁, ht₁, hqt₁⟩ (hfresh sid₁)
      rcases (hin sid₂ _).mp ⟨s₂, h₂, hq₂⟩ with ⟨t₂, ht₂, hqt₂⟩ | ⟨rfl, -⟩
      · exact absurd ⟨t₂, ht₂, hqt₂⟩ (hfresh sid₂)
      · rfl
    · -- a key that was there before is not the new one
      have hold : ∀ x c, (∃ t, db.session sid = some t ∧ x ∈ t.port_tree) →
          db.ports.get x = some c → c.key ≠ key := by
        rintro x c ⟨u, hu, hx⟩ hc rfl
        rw [h.portAt_eq hu hx hc] at hnone
        simp at hnone
      rw [hget] at ha hb
      rcases (hin sid' q).mp ⟨t, ht, hq⟩ with ⟨t₁, ht₁, hq₁⟩ | ⟨rfl, rfl⟩
      · have hqne : q ≠ db.ports.next := fun heq => hfresh sid' ⟨t₁, ht₁, heq ▸ hq₁⟩
        rw [if_neg hqne] at ha
        rcases (hin sid' r).mp ⟨t, ht, hr⟩ with ⟨t₂, ht₂, hr₂⟩ | ⟨rfl, rfl⟩
        · have hrne : r ≠ db.ports.next := fun heq => hfresh sid' ⟨t₂, ht₂, heq ▸ hr₂⟩
          rw [if_neg hrne] at hb
          rw [ht₁] at ht₂
          cases ht₂
          exact h.keys _ _ q r a b ht₁ hq₁ hr₂ ha hb hkey
        rw [if_pos rfl] at hb
        cases hb
        exact absurd hkey (hold q a ⟨t₁, ht₁, hq₁⟩ ha)
      · rw [if_pos rfl] at ha
        cases ha
        rcases (hin sid' r).mp ⟨t, ht, hr⟩ with ⟨t₂, ht₂, hr₂⟩ | ⟨-, rfl⟩
        · have hrne : r ≠ db.ports.next := fun heq => hfresh sid' ⟨t₂, ht₂, heq ▸ hr₂⟩
          rw [if_neg hrne] at hb
          exact absurd hkey.symm (hold r b ⟨t₂, ht₂, hr₂⟩ hb)
        · rfl
  refine ⟨hok, fun sid' key' => ?_⟩
  split
  next heq =>
    obtain ⟨rfl, rfl⟩ := heq
    obtain ⟨t, ht, hq⟩ := (hin sid' db.ports.next).mpr (.inr ⟨rfl, rfl⟩)
    exact hok.portAt_eq (s := t) ht hq (by rw [hget, if_pos rfl])
  rename_i hne
  refine h.portAt_congr hok fun q b hb => ?_
  rw [hin, hget]
  by_cases hq : q = db.ports.next
  · obtain rfl := hq
    rw [if_pos rfl]
    refine iff_of_false (fun hand => hfresh sid' hand.1) ?_
    rintro ⟨hold | ⟨rfl, -⟩, hnew⟩
    · exact hfresh sid' hold
    · cases hnew
      exact hne ⟨rfl, hb.symm⟩
  · simp [hq]

theorem modPort (h : PortTreesOk db) (hat : db.portAt sid key = some (p, port))
    (f : SamplePort → SamplePort) (hkey : (f port).key = port.key) :
    PortTreesOk (db.modPort p f) ∧ ∀ sid' key', (db.modPort p f).portAt sid' key' =
      if sid' = sid ∧ key' = key then some (p, f port) else db.portAt sid' key' := by
  obtain ⟨s, hs, hp, hport, rfl⟩ := portAt_some hat
  have hget : ∀ q, (db.modPort p f).ports.get q =
      if q = p then some (f port) else db.ports.get q := by
    intro q
    show (db.ports.modify p f).get q = _
    rw [Heap.get_modify]
    by_cases hq : q = p
    · rw [if_pos hq, if_pos hq, hq, hport]
      rfl
    · rw [if_neg hq, if_neg hq]
  -- a node has the key it had
  have hsame : ∀ q b, (db.modPort p f).ports.get q = some b →
      ∃ a, db.ports.get q = some a ∧ a.key = b.key := by
    intro q b hb
    rw [hget] at hb
    by_cases hq : q = p
    · rw [if_pos hq] at hb
      cases hb
      exact ⟨port, by rw [hq]; exact hport, hkey.symm⟩
    · rw [if_neg hq] at hb
      exact ⟨b, hb, rfl⟩
  have hok : PortTreesOk (db.modPort p f) := by
    refine ⟨h.typed, fun q => ?_, h.owner, fun sid' t q r a b ht hq hr ha hb heq => ?_⟩
    · rw [hget]
      by_cases hq : q = p
      · rw [if_pos hq, hq]
        exact iff_of_true rfl ⟨sid, s, hs, hp⟩
      · rw [if_neg hq]
        exact h.live q
    · obtain ⟨a', ha', hka⟩ := hsame q a ha
      obtain ⟨b', hb', hkb⟩ := hsame r b hb
      exact h.keys _ t q r a' b' ht hq hr ha' hb' (hka.trans (heq.trans hkb.symm))
  refine ⟨hok, fun sid' key' => ?_⟩
  split
  next heq =>
    obtain ⟨rfl, rfl⟩ := heq
    have hnow : (db.modPort p f).ports.get p = some (f port) := by rw [hget, if_pos rfl]
    have hfound := hok.portAt_eq hs hp hnow
    rw [hkey] at hfound
    exact hfound
  rename_i hne
  refine h.portAt_congr hok fun q b hb => and_congr_right fun hin => ?_
  obtain ⟨t, ht, hq⟩ := hin
  rw [hget]
  by_cases hqp : q = p
  · obtain rfl := hqp
    obtain rfl := h.owner _ sid t s q ht hs hq hp
    rw [if_pos rfl, hport]
    refine iff_of_false (fun heq => hne ⟨rfl, ?_⟩) fun heq => hne ⟨rfl, ?_⟩
    · rw [Option.some.inj heq, hb]
    · rw [← hkey, Option.some.inj heq, hb]
  · rw [if_neg hqp]

theorem unlink (h : PortTreesOk db) (hat : db.portAt sid key = some (p, port)) :
    PortTreesOk ((db.portUnlink sid p).portNodeFree p) ∧
      ∀ sid' key', ((db.portUnlink sid p).portNodeFree p).portAt sid' key' =
        if sid' = sid ∧ key' = key then none else db.portAt sid' key' := by
  obtain ⟨s, hs, hp, hport, rfl⟩ := portAt_some hat
  have hin : ∀ sid' q, (∃ t, ((db.portUnlink sid p).portNodeFree p).session sid' = some t ∧
      q ∈ t.port_tree) ↔ (∃ t, db.session sid' = some t ∧ q ∈ t.port_tree) ∧ q ≠ p := by
    intro sid' q
    show (∃ t, (if sid' = sid then (db.session sid').map _ else db.session sid') = some t ∧ _) ↔ _
    by_cases hsid : sid' = sid
    · rw [if_pos hsid, hsid, hs]
      simp [and_comm]
    rw [if_neg hsid]
    refine ⟨fun hex => ⟨hex, ?_⟩, fun hex => hex.1⟩
    rintro rfl
    obtain ⟨t, ht, hq⟩ := hex
    exact hsid (h.owner _ sid t s q ht hs hq hp)
  have hget : ∀ q, ((db.portUnlink sid p).portNodeFree p).ports.get q =
      if q = p then none else db.ports.get q := fun q => Heap.get_free _ _ q
  have hok : PortTreesOk ((db.portUnlink sid p).portNodeFree p) := by
    refine ⟨fun sid' hsome => h.typed _ ((modSession_isSome _).mp hsome),
      fun q => ?_, fun sid₁ sid₂ s₁ s₂ q h₁ h₂ hq₁ hq₂ => ?_,
      fun sid' t q r a b ht hq hr ha hb heq => ?_⟩
    · have hexists : (∃ sid' t, ((db.portUnlink sid p).portNodeFree p).session sid' = some t ∧
          q ∈ t.port_tree) ↔ (∃ sid' t, db.session sid' = some t ∧ q ∈ t.port_tree) ∧ q ≠ p := by
        simp only [hin, exists_and_right]
      rw [hexists, ← h.live q, hget q]
      by_cases hq : q = p
      · simp [hq]
      · simp [hq]
    · obtain ⟨⟨t₁, ht₁, hqt₁⟩, -⟩ := (hin sid₁ q).mp ⟨s₁, h₁, hq₁⟩
      obtain ⟨⟨t₂, ht₂, hqt₂⟩, -⟩ := (hin sid₂ q).mp ⟨s₂, h₂, hq₂⟩
      exact h.owner _ _ _ _ q ht₁ ht₂ hqt₁ hqt₂
    · obtain ⟨⟨t₁, ht₁, hq₁⟩, hqp⟩ := (hin sid' q).mp ⟨t, ht, hq⟩
      obtain ⟨⟨t₂, ht₂, hr₂⟩, hrp⟩ := (hin sid' r).mp ⟨t, ht, hr⟩
      rw [hget, if_neg hqp] at ha
      rw [hget, if_neg hrp] at hb
      rw [ht₁] at ht₂
      cases ht₂
      exact h.keys _ _ q r a b ht₁ hq₁ hr₂ ha hb heq
  refine ⟨hok, fun sid' key' => ?_⟩
  split
  next heq =>
    obtain ⟨rfl, rfl⟩ := heq
    cases hat' : ((db.portUnlink sid' p).portNodeFree p).portAt sid' port.key with
    | none => rfl
    | some x =>
      obtain ⟨q, b⟩ := x
      obtain ⟨t', ht', hq', hb, hkey⟩ := portAt_some hat'
      obtain ⟨⟨t, ht, hq⟩, hqp⟩ := (hin sid' q).mp ⟨t', ht', hq'⟩
      rw [hget, if_neg hqp] at hb
      rw [hs] at ht
      cases ht
      exact absurd (h.keys _ s q p b _ hs hq hp hb hport hkey) hqp
  next hne =>
    refine h.portAt_congr hok fun q b hb => ?_
    rw [hin, hget]
    by_cases hqp : q = p
    · obtain rfl := hqp
      rw [if_pos rfl]
      refine iff_of_false ?_ fun hand => hand.1.2 rfl
      rintro ⟨⟨t, ht, hq⟩, hport'⟩
      obtain rfl := h.owner _ sid t s q ht hs hq hp
      rw [hport] at hport'
      exact hne ⟨rfl, by rw [← hb, Option.some.inj hport']⟩
    · simp [hqp]

theorem alloc_free (h : PortTreesOk db) {port} :
    PortTreesOk (({ db with ports := db.ports.alloc port } : SampleDb).portNodeFree db.ports.next) ∧
      ∀ sid' key', (({ db with ports := db.ports.alloc port } : SampleDb).portNodeFree
        db.ports.next).portAt sid' key' = db.portAt sid' key' := by
  have hget : ∀ q, (({ db with ports := db.ports.alloc port } : SampleDb).portNodeFree
      db.ports.next).ports.get q = db.ports.get q := by
    intro q
    show ((db.ports.alloc port).free db.ports.next).get q = _
    rw [Heap.get_free, Heap.get_alloc]
    by_cases hq : q = db.ports.next
    · rw [if_pos hq, hq, Heap.get_next]
    · rw [if_neg hq, if_neg hq]
  have hok : PortTreesOk (({ db with ports := db.ports.alloc port } : SampleDb).portNodeFree
      db.ports.next) := by
    refine ⟨h.typed, fun q => ?_, h.owner, fun sid' t q r a b ht hq hr ha hb => ?_⟩
    · rw [hget]
      exact h.live q
    · rw [hget] at ha hb
      exact h.keys _ t q r a b ht hq hr ha hb
  exact ⟨hok, fun sid' key' => h.portAt_congr hok fun q b _ => by rw [hget]; rfl⟩

end PortTreesOk

end Trees

/-! ## One use more -/

def sampleUseCall (session_id : Oid) (key : SamplePortKey) : SampleMode → SampleCall
  | .flowBased => .sessionAclPortAdd session_id key.samplepacket_port key.samplepacket_direction
  | _ => .sessionPortAdd session_id key.samplepacket_port key.samplepacket_direction

def SamplePort.used (mode : SampleMode) (port : SamplePort) : SamplePort :=
  match mode with
  | .portBased => { port with port_based := true }
  | .flowBased => { port with ref_count := port.ref_count + 1, flow_based := true }
  | .other => port

/-- The node with the flow that is not the last one gone. -/
def SamplePort.dropped (port : SamplePort) : SamplePort :=
  { port with ref_count := port.ref_count - 1 }

section PortUse

variable {env : SampleEnv} {key : SamplePortKey} {p : Ptr}
  {port : SamplePort} {mode : SampleMode}

theorem samplepacketPortUse_success (h : PortTreesOk db)
    (hat : db.portAt sid key = some (p, port)) (hmode : mode ≠ .other)
    (hnpu : env.status db.npu_log (sampleUseCall sid key mode) = .success) :
    (samplepacketPortUse env sid mode p port db).1 = .success ∧
      PortTreesOk (samplepacketPortUse env sid mode p port db).2 ∧
      ∀ sid' key', (samplepacketPortUse env sid mode p port db).2.portAt sid' key' =
        if sid' = sid ∧ key' = key then some (p, port.used mode) else db.portAt sid' key' := by
  have hkey : port.key = key := (portAt_some hat).choose_spec.2.2.2
  have hcall : ∀ c, (db.call env c).2.portAt sid key = some (p, port) := fun _ => hat
  subst hkey
  unfold samplepacketPortUse
  cases mode with
  | portBased =>
    have hok : (db.call env (.sessionPortAdd sid port.key.samplepacket_port
      port.key.samplepacket_direction)).1 = .success := hnpu
    simp only
    rw [if_ok hok]
    exact ⟨rfl, h.call.modPort (hcall _) _ rfl⟩
  | flowBased =>
    have hok : (db.call env (.sessionAclPortAdd sid port.key.samplepacket_port
      port.key.samplepacket_direction)).1 = .success := hnpu
    simp only
    rw [if_ok hok]
    exact ⟨rfl, h.call.modPort (hcall _) _ rfl⟩
  | other => exact absurd rfl hmode

/-- The NPU library does not take the use of a node that has no other: the node goes. -/
theorem samplepacketPortUse_failure (h : PortTreesOk db)
    (hat : db.portAt sid key = some (p, port)) (hmode : mode ≠ .other)
    (hnpu : env.status db.npu_log (sampleUseCall sid key mode) ≠ .success)
    (href : port.ref_count = 0) (hport : port.port_based = false) :
    (samplepacketPortUse env sid mode p port db).1 ≠ .success ∧
      PortTreesOk (samplepacketPortUse env sid mode p port db).2 ∧
      ∀ sid' key', (samplepacketPortUse env sid mode p port db).2.portAt sid' key' =
        if sid' = sid ∧ key' = key then none else db.portAt sid' key' := by
  have hkey : port.key = key := (portAt_some hat).choose_spec.2.2.2
  have hcall : ∀ c, (db.call env c).2.portAt sid key = some (p, port) := fun _ => hat
  subst hkey
  unfold samplepacketPortUse
  cases mode with
  | portBased =>
    have hfail : (db.call env (.sessionPortAdd sid port.key.samplepacket_port
      port.key.samplepacket_direction)).1 ≠ .success := hnpu
    simp only
    rw [if_pos hfail, if_pos href]
    exact ⟨hfail, h.call.unlink (hcall _)⟩
  | flowBased =>
    have hfail : (db.call env (.sessionAclPortAdd sid port.key.samplepacket_port
      port.key.samplepacket_direction)).1 ≠ .success := hnpu
    simp only
    rw [if_pos hfail, if_pos (by simp [hport, href])]
    exact ⟨hfail, h.call.unlink (hcall _)⟩
  | other => exact absurd rfl hmode

end PortUse

/-! ## The system -/

/-- The uses that were asked for and not taken back: whether the port itself uses the node, and
how many flows do. -/
structure SampleUses where
  port_on : Oid → SamplePortKey → Bool
  flows : Oid → SamplePortKey → Nat

namespace SampleUses

def add (session_id : Oid) (key : SamplePortKey) (mode : SampleMode) (u : SampleUses) :
    SampleUses where
  port_on := fun s k =>
    if s = session_id ∧ k = key ∧ mode = .portBased then true else u.port_on s k
  flows := fun s k =>
    if s = session_id ∧ k = key ∧ mode = .flowBased then u.flows s k + 1 else u.flows s k

def remove (session_id : Oid) (key : SamplePortKey) (mode : SampleMode) (u : SampleUses) :
    SampleUses where
  port_on := fun s k =>
    if s = session_id ∧ k = key ∧ mode = .portBased then false else u.port_on s k
  flows := fun s k =>
    if s = session_id ∧ k = key ∧ mode = .flowBased then u.flows s k - 1 else u.flows s k

end SampleUses

structure SampleSys where
  db : SampleDb
  uses : SampleUses

inductive SampleOp where
  | portAdd (session_id samplepacket_port_id : Oid) (samplepacket_direction : SampleDirection)
    (sample_mode : SampleMode)
  | portRemove (session_id samplepacket_port_id : Oid) (samplepacket_direction : SampleDirection)
    (sample_mode : SampleMode)

structure SampleOpCall where
  env : SampleEnv
  op : SampleOp

/-- One call. An add takes effect when it succeeds; a remove does when it succeeds, and also when
it takes off a flow that is not the last one, which the call reports as an error. -/
def sampleStep (c : SampleOpCall) (σ : SampleSys) : SampleSys :=
  match c.op with
  | .portAdd sid port dir mode =>
    let x := samplepacketSessionPortAdd c.env sid port dir mode σ.db
    ⟨x.2, if x.1 = .success then σ.uses.add sid ⟨port, dir⟩ mode else σ.uses⟩
  | .portRemove sid port dir mode =>
    let x := samplepacketSessionPortRemove c.env sid port dir mode σ.db
    ⟨x.2, if x.1 = .success ∨ mode = .flowBased ∧ 1 < σ.uses.flows sid ⟨port, dir⟩ then
      σ.uses.remove sid ⟨port, dir⟩ mode else σ.uses⟩

structure PortUsed (port : SamplePort) (port_on : Bool) (flows : Nat) : Prop where
  ref_count : port.ref_count.toNat = flows
  port_based : port.port_based = port_on
  flow_based : port.flow_based = decide (0 < flows)
  used : port_on = true ∨ 0 < flows

/-- Trees and nodes are in order, and there is a node where there is a use. -/
structure PortNodesOk (σ : SampleSys) : Prop where
  trees : PortTreesOk σ.db
  unused : ∀ sid key, σ.db.portAt sid key = none →
    σ.uses.port_on sid key = false ∧ σ.uses.flows sid key = 0
  used : ∀ sid key p port, σ.db.portAt sid key = some (p, port) →
    PortUsed port (σ.uses.port_on sid key) (σ.uses.flows sid key)

/-- The condition on an add: the NPU library does not fail for a node that the other kind of user
has brought into being, and the count of flows has room. -/
def SampleAddOk (sid : Oid) (key : SamplePortKey) (σ : SampleSys) : SampleMode → Prop
  | .portBased => σ.uses.port_on sid key = false → 0 < σ.uses.flows sid key →
    env.status σ.db.npu_log (sampleUseCall sid key .portBased) = .success
  | .flowBased => σ.uses.flows sid key + 1 < 2 ^ 32 ∧
    (σ.uses.flows sid key = 0 → σ.uses.port_on sid key = true →
      env.status σ.db.npu_log (sampleUseCall sid key .flowBased) = .success)
  | .other => False

/-- The condition on a remove: there is such a use to remove; the port goes only after the flows,
unless the NPU library does not let it go; and the last flow goes only after the port, and the
NPU library lets it go. -/
def SampleRemoveOk (sid : Oid) (key : SamplePortKey) (σ : SampleSys) : SampleMode → Prop
  | .portBased => σ.uses.port_on sid key = true ∧ (σ.uses.flows sid key = 0 ∨
    env.status σ.db.npu_log (.sessionPortRemove sid key.samplepacket_port
      key.samplepacket_direction) ≠ .success)
  | .flowBased => 0 < σ.uses.flows sid key ∧ (σ.uses.flows sid key = 1 →
    σ.uses.port_on sid key = false ∧ env.status σ.db.npu_log (.sessionAclPortRemove sid
      key.samplepacket_port key.samplepacket_direction) = .success)
  | .other => False

def SampleOpOk (c : SampleOpCall) (σ : SampleSys) : Prop :=
  match c.op with
  | .portAdd sid port dir mode => SampleAddOk c.env sid ⟨port, dir⟩ σ mode
  | .portRemove sid port dir mode => SampleRemoveOk c.env sid ⟨port, dir⟩ σ mode

namespace PortNodesOk

variable {env : SampleEnv} {key : SamplePortKey}

theorem of_same (h : PortNodesOk σ) (htrees : PortTreesOk db)
    (hat : ∀ sid key, db.portAt sid key = σ.db.portAt sid key) : PortNodesOk ⟨db, σ.uses⟩ :=
  ⟨htrees, fun sid key hnone => h.unused sid key (by rw [← hat]; exact hnone),
    fun sid key p port hsome => h.used sid key p _ (by rw [← hat]; exact hsome)⟩

theorem of_at {uses} (h : PortNodesOk σ) (htrees : PortTreesOk db)
    {o} (hat : ∀ sid' key', db.portAt sid' key' =
      if sid' = sid ∧ key' = key then o else σ.db.portAt sid' key')
    (huses : ∀ sid' key', ¬ (sid' = sid ∧ key' = key) →
      uses.port_on sid' key' = σ.uses.port_on sid' key' ∧
        uses.flows sid' key' = σ.uses.flows sid' key')
    (hnone : o = none → uses.port_on sid key = false ∧ uses.flows sid key = 0)
    (hsome : ∀ p port, o = some (p, port) →
      PortUsed port (uses.port_on sid key) (uses.flows sid key)) :
    PortNodesOk ⟨db, uses⟩ := by
  refine ⟨htrees, fun sid' key' hn => ?_, fun sid' key' p port hs => ?_⟩
  · have hn : db.portAt sid' key' = none := hn
    rw [hat] at hn
    by_cases heq : sid' = sid ∧ key' = key
    · rw [if_pos heq] at hn
      obtain ⟨rfl, rfl⟩ := heq
      exact hnone hn
    rw [if_neg heq] at hn
    show uses.port_on sid' key' = false ∧ uses.flows sid' key' = 0
    rw [(huses sid' key' heq).1, (huses sid' key' heq).2]
    exact h.unused _ _ hn
  · have hs : db.portAt sid' key' = some (p, port) := hs
    rw [hat] at hs
    by_cases heq : sid' = sid ∧ key' = key
    · rw [if_pos heq] at hs
      obtain ⟨rfl, rfl⟩ := heq
      exact hsome p port hs
    rw [if_neg heq] at hs
    show PortUsed port (uses.port_on sid' key') (uses.flows sid' key')
    rw [(huses sid' key' heq).1, (huses sid' key' heq).2]
    exact h.used _ _ p _ hs

/-- **Add**: nothing has changed, or the node of the key is there with one use more. -/
theorem portAdd_cases (h : PortNodesOk σ) (hok : SampleAddOk env sid ⟨port_id, dir⟩ σ mode)
    {x} (hx : samplepacketSessionPortAdd env sid port_id dir mode σ.db = x) :
    (x.1 ≠ .success ∧ PortTreesOk x.2 ∧ ∀ s k, x.2.portAt s k = σ.db.portAt s k) ∨
    (x.1 = .success ∧ PortTreesOk x.2 ∧ ∃ p port, (σ.db.portAt sid ⟨port_id, dir⟩ = none ∧
        port = .new ⟨port_id, dir⟩ ∨ σ.db.portAt sid ⟨port_id, dir⟩ = some (p, port)) ∧
      ∀ s k, x.2.portAt s k =
        if s = sid ∧ k = ⟨port_id, dir⟩ then some (p, port.used mode)
        else σ.db.portAt s k) := by
  have hmode : mode ≠ .other := by
    rintro rfl
    exact hok
  unfold samplepacketSessionPortAdd at hx
  by_cases htype : sid.type ≠ .samplePacket
  · rw [if_pos htype] at hx
    subst hx
    exact .inl ⟨by simp, h.trees, fun _ _ => rfl⟩
  rw [if_neg htype] at hx
  cases hs : σ.db.session sid with
  | none =>
    rw [hs] at hx
    simp only at hx
    subst hx
    exact .inl ⟨by simp, h.trees, fun _ _ => rfl⟩
  | some s =>
    rw [hs] at hx
    simp only at hx
    have hat : σ.db.portAt sid ⟨port_id, dir⟩ = σ.db.portGet s ⟨port_id, dir⟩ := by
      unfold SampleDb.portAt
      rw [hs]
    cases hget : σ.db.portGet s ⟨port_id, dir⟩ with
    | none =>
      rw [hget] at hx hat
      simp only at hx
      split at hx
      · subst hx
        exact .inl ⟨by simp, h.trees, fun _ _ => rfl⟩
      split at hx
      · subst hx
        obtain ⟨htrees, hsame⟩ := h.trees.alloc_free
        exact .inl ⟨by simp, htrees, hsame⟩
      -- a new node, which the NPU library takes or not
      obtain ⟨htrees, hlinked⟩ := h.trees.link hs hat
      generalize hdb : ({ σ.db with ports := σ.db.ports.alloc (.new ⟨port_id, dir⟩) } :
          SampleDb).portLink _ _ = db
        at htrees hlinked hx
      have hthere : db.portAt sid ⟨port_id, dir⟩ =
          some (σ.db.ports.next, .new ⟨port_id, dir⟩) := by
        rw [hlinked, if_pos ⟨rfl, rfl⟩]
      by_cases hnpu : env.status db.npu_log
          (sampleUseCall sid ⟨port_id, dir⟩ mode) = .success
      · obtain ⟨hsuccess, htrees, hused⟩ :=
          samplepacketPortUse_success htrees hthere hmode hnpu
        rw [hx] at hsuccess htrees hused
        refine .inr ⟨hsuccess, htrees, σ.db.ports.next, _, .inl ⟨hat, rfl⟩, fun s' k' => ?_⟩
        rw [hused, hlinked]
        split <;> rfl
      · obtain ⟨hfail, htrees, hgone⟩ :=
          samplepacketPortUse_failure htrees hthere hmode hnpu rfl rfl
        rw [hx] at hfail htrees hgone
        refine .inl ⟨hfail, htrees, fun s' k' => ?_⟩
        rw [hgone, hlinked]
        split
        next heq => rw [heq.1, heq.2, hat]
        · rfl
    | some y =>
      obtain ⟨p, port⟩ := y
      rw [hget] at hx hat
      simp only at hx
      have hused := h.used _ _ _ _ hat
      split at hx
      · subst hx
        exact .inl ⟨by simp, h.trees, fun _ _ => rfl⟩
      rename_i hnew
      split at hx
      · -- one flow more on a node that flows use
        rename_i hflow
        obtain ⟨rfl, hflow⟩ := hflow
        subst hx
        obtain ⟨htrees, hmod⟩ := h.trees.modPort hat
          (fun n => { n with ref_count := n.ref_count + 1 }) rfl
        refine .inr ⟨rfl, htrees, p, port, .inr hat, fun s' k' => ?_⟩
        rw [hmod]
        have hsame : port.used .flowBased = { port with ref_count := port.ref_count + 1 } := by
          unfold SamplePort.used
          rw [← hflow]
        rw [hsame]
      next hfirst =>
        have hnpu : env.status σ.db.npu_log
            (sampleUseCall sid ⟨port_id, dir⟩ mode) = .success := by
          cases mode with
          | portBased =>
            have hoff : σ.uses.port_on sid ⟨port_id, dir⟩ = false := by
              rw [← hused.port_based]
              simpa using hnew
            refine hok hoff (hused.used.resolve_left ?_)
            rw [hoff]
            simp
          | flowBased =>
            have hnone : ¬ 0 < σ.uses.flows sid ⟨port_id, dir⟩ := by
              have hflow := hused.flow_based
              intro hpos
              rw [decide_eq_true hpos] at hflow
              exact hfirst ⟨rfl, hflow⟩
            exact hok.2 (by omega) (hused.used.resolve_right hnone)
          | other => exact absurd rfl hmode
        obtain ⟨hsuccess, htrees, hat'⟩ := samplepacketPortUse_success h.trees hat hmode hnpu
        rw [hx] at hsuccess htrees hat'
        exact .inr ⟨hsuccess, htrees, p, port, .inr hat, hat'⟩

theorem toNat_succ {n : BitVec 32} {k : Nat} (h : n.toNat = k) (hk : k + 1 < 2 ^ 32) :
    (n + 1).toNat = k + 1 := by
  rw [BitVec.toNat_add, h]
  exact Nat.mod_eq_of_lt hk

theorem portAdd (h : PortNodesOk σ) (hok : SampleAddOk env sid ⟨port_id, dir⟩ σ mode) :
    PortNodesOk (sampleStep ⟨env, .portAdd sid port_id dir mode⟩ σ) := by
  unfold sampleStep
  simp only
  rcases h.portAdd_cases hok rfl with ⟨hfail, htrees, hsame⟩ | ⟨hsuccess, htrees, p, port, hport, hat⟩
  · rw [if_neg hfail]
    exact h.of_same htrees hsame
  rw [if_pos hsuccess]
  refine h.of_at htrees hat (fun s k hne => ?_) (fun hnone => by simp at hnone) ?_
  · unfold SampleUses.add
    simp only
    rw [if_neg fun heq => hne ⟨heq.1, heq.2.1⟩, if_neg fun heq => hne ⟨heq.1, heq.2.1⟩]
    exact ⟨rfl, rfl⟩
  · rintro q n heq
    cases heq
    have hbefore : port.ref_count.toNat = σ.uses.flows sid ⟨port_id, dir⟩ ∧
        port.port_based = σ.uses.port_on sid ⟨port_id, dir⟩ ∧
        port.flow_based = decide (0 < σ.uses.flows sid ⟨port_id, dir⟩) := by
      rcases hport with ⟨hnone, rfl⟩ | hsome
      · obtain ⟨hoff, hzero⟩ := h.unused _ _ hnone
        rw [hoff, hzero]
        exact ⟨rfl, rfl, rfl⟩
      · have hused := h.used _ _ _ _ hsome
        exact ⟨hused.ref_count, hused.port_based, hused.flow_based⟩
    obtain ⟨href, hpb, hfb⟩ := hbefore
    cases mode with
    | portBased =>
      unfold SampleUses.add SamplePort.used
      simp only [reduceCtorEq, and_false, if_false, and_true]
      exact ⟨href, rfl, hfb, .inl rfl⟩
    | flowBased =>
      unfold SampleUses.add SamplePort.used
      simp only [reduceCtorEq, and_false, if_false, and_true]
      exact ⟨toNat_succ href hok.1, hpb, by simp, .inr (Nat.succ_pos _)⟩
    | other => exact hok.elim

theorem portDone {p} {port} (htrees : PortTreesOk db)
    (hat : db.portAt sid key = some (p, port)) :
    (samplepacketPortDone sid p 0 db).1 = .success ∧
      PortTreesOk (samplepacketPortDone sid p 0 db).2 ∧
      ∀ s k, (samplepacketPortDone sid p 0 db).2.portAt s k =
        if s = sid ∧ k = key then none else db.portAt s k := by
  unfold samplepacketPortDone
  simp only [if_true]
  exact ⟨trivial, htrees.unlink hat⟩

/-- **Remove**: nothing has changed, or the node of the key is gone with its last use, or it is
there with one flow less. -/
theorem portRemove_cases (h : PortNodesOk σ) (hok : SampleRemoveOk env sid ⟨port_id, dir⟩ σ mode)
    {x} (hx : samplepacketSessionPortRemove env sid port_id dir mode σ.db = x) :
    (x.1 ≠ .success ∧ ¬ (mode = .flowBased ∧ 1 < σ.uses.flows sid ⟨port_id, dir⟩) ∧
      PortTreesOk x.2 ∧ ∀ s k, x.2.portAt s k = σ.db.portAt s k) ∨
    (x.1 = .success ∧ PortTreesOk x.2 ∧
      (mode = .portBased ∧ σ.uses.flows sid ⟨port_id, dir⟩ = 0 ∨
        mode = .flowBased ∧ σ.uses.flows sid ⟨port_id, dir⟩ = 1 ∧
          σ.uses.port_on sid ⟨port_id, dir⟩ = false) ∧
      ∀ s k, x.2.portAt s k = if s = sid ∧ k = ⟨port_id, dir⟩ then none else σ.db.portAt s k) ∨
    (mode = .flowBased ∧ 1 < σ.uses.flows sid ⟨port_id, dir⟩ ∧ PortTreesOk x.2 ∧
      ∃ p port, σ.db.portAt sid ⟨port_id, dir⟩ = some (p, port) ∧
        ∀ s k, x.2.portAt s k =
          if s = sid ∧ k = ⟨port_id, dir⟩ then some (p, port.dropped) else σ.db.portAt s k) := by
  -- there is a node, since there is a use to remove
  have hthere : ∃ p port, σ.db.portAt sid ⟨port_id, dir⟩ = some (p, port) := by
    cases hat : σ.db.portAt sid ⟨port_id, dir⟩ with
    | some y => exact ⟨y.1, y.2, rfl⟩
    | none =>
      obtain ⟨hoff, hzero⟩ := h.unused _ _ hat
      cases mode with
      | portBased =>
        have hon := hok.1
        rw [hoff] at hon
        simp at hon
      | flowBased =>
        have hpos := hok.1
        omega
      | other => exact hok.elim
  obtain ⟨p, port, hat⟩ := hthere
  have hused := h.used _ _ _ _ hat
  obtain ⟨s, hs, hp, hport, hkey⟩ := portAt_some hat
  have hget : σ.db.portGet s ⟨port_id, dir⟩ = some (p, port) := by
    rw [← hat]
    unfold SampleDb.portAt
    rw [hs]
  unfold samplepacketSessionPortRemove at hx
  have htype : ¬ sid.type ≠ .samplePacket := not_not.mpr (h.trees.typed sid (by rw [hs]; rfl))
  rw [if_neg htype, hs] at hx
  simp only at hx
  rw [hget] at hx
  simp only at hx
  cases mode with
  | portBased =>
    simp only at hx
    by_cases hnpu : env.status σ.db.npu_log (.sessionPortRemove sid port_id dir) = .success
    · have hcall : (σ.db.call env (.sessionPortRemove sid port_id dir)).1 = .success := hnpu
      rw [if_ok hcall] at hx
      have hzero : σ.uses.flows sid ⟨port_id, dir⟩ = 0 := hok.2.resolve_right fun hf => hf hnpu
      have href : port.ref_count = 0 := by
        have hcount := hused.ref_count
        rw [hzero] at hcount
        exact BitVec.eq_of_toNat_eq hcount
      rw [href] at hx
      subst hx
      have hthere : (σ.db.call env (.sessionPortRemove sid port_id dir)).2.portAt sid
          ⟨port_id, dir⟩ = some (p, port) := hat
      obtain ⟨hsuccess, htrees, hgone⟩ :=
        portDone h.trees.call hthere
      exact .inr (.inl ⟨hsuccess, htrees, .inl ⟨rfl, hzero⟩, hgone⟩)
    · have hcall : (σ.db.call env (.sessionPortRemove sid port_id dir)).1 ≠ .success := hnpu
      rw [if_pos hcall] at hx
      subst hx
      exact .inl ⟨hcall, by simp, h.trees.call, fun _ _ => rfl⟩
  | flowBased =>
    simp only at hx
    obtain ⟨hpos, hlast⟩ := hok
    have hdrop := h.trees.modPort hat (fun n => { n with ref_count := port.ref_count - 1 }) rfl
    by_cases hone : σ.uses.flows sid ⟨port_id, dir⟩ = 1
    · obtain ⟨hoff, hnpu⟩ := hlast hone
      have href : port.ref_count - 1 = 0 := by
        have hcount := hused.ref_count
        rw [hone] at hcount
        rw [show port.ref_count = 1 from BitVec.eq_of_toNat_eq hcount]
        rfl
      rw [href] at hx hdrop
      rw [if_pos rfl] at hx
      obtain ⟨htrees, hdrop⟩ := hdrop
      have hcall : ((σ.db.modPort p fun n => { n with ref_count := 0 }).call env
          (.sessionAclPortRemove sid port_id dir)).1 = .success := hnpu
      rw [if_ok hcall] at hx
      have hthere : ((σ.db.modPort p fun n => { n with ref_count := 0 }).call env
          (.sessionAclPortRemove sid port_id dir)).2.portAt sid ⟨port_id, dir⟩ = some (p, _) :=
        (hdrop sid ⟨port_id, dir⟩).trans (if_pos ⟨rfl, rfl⟩)
      obtain ⟨htrees, hcleared⟩ := htrees.call.modPort
        hthere (fun n => { n with flow_based := false }) rfl
      have hnow := (hcleared sid ⟨port_id, dir⟩).trans (if_pos ⟨rfl, rfl⟩)
      obtain ⟨hsuccess, htrees, hgone⟩ := portDone htrees hnow
      subst hx
      refine .inr (.inl ⟨hsuccess, htrees, .inr ⟨rfl, hone, hoff⟩, fun s' k' => ?_⟩)
      rw [hgone]
      split
      · rfl
      rename_i hne
      rw [hcleared, if_neg hne]
      exact (hdrop s' k').trans (if_neg hne)
    · have href : port.ref_count - 1 ≠ 0 := by
        intro hzero
        have hcount := hused.ref_count
        rw [show port.ref_count = 1 by
          rw [← BitVec.sub_add_cancel port.ref_count 1, hzero]; rfl] at hcount
        exact hone hcount.symm
      rw [if_neg href] at hx
      subst hx
      exact .inr (.inr ⟨rfl, by omega, hdrop.1, p, port, hat, hdrop.2⟩)
  | other => exact hok.elim

theorem portRemove (h : PortNodesOk σ) (hok : SampleRemoveOk env sid ⟨port_id, dir⟩ σ mode) :
    PortNodesOk (sampleStep ⟨env, .portRemove sid port_id dir mode⟩ σ) := by
  unfold sampleStep
  simp only
  have hother : ∀ s k, ¬ (s = sid ∧ k = ⟨port_id, dir⟩) →
      (σ.uses.remove sid ⟨port_id, dir⟩ mode).port_on s k = σ.uses.port_on s k ∧
        (σ.uses.remove sid ⟨port_id, dir⟩ mode).flows s k = σ.uses.flows s k := by
    intro s k hne
    unfold SampleUses.remove
    simp only
    rw [if_neg fun heq => hne ⟨heq.1, heq.2.1⟩, if_neg fun heq => hne ⟨heq.1, heq.2.1⟩]
    exact ⟨rfl, rfl⟩
  rcases h.portRemove_cases hok rfl with ⟨hfail, hfew, htrees, hsame⟩ |
    ⟨hsuccess, htrees, hlast, hgone⟩ | ⟨rfl, hmany, htrees, p, port, hat, hdrop⟩
  · rw [if_neg (not_or.mpr ⟨hfail, hfew⟩)]
    exact h.of_same htrees hsame
  · rw [if_pos (.inl hsuccess)]
    refine h.of_at htrees hgone hother (fun _ => ?_) (fun p port heq => by simp at heq)
    unfold SampleUses.remove
    rcases hlast with ⟨rfl, hzero⟩ | ⟨rfl, hone, hoff⟩
    · simp [hzero]
    · simp [hone, hoff]
  · rw [if_pos (.inr ⟨rfl, hmany⟩)]
    refine h.of_at htrees hdrop hother (fun hnone => by simp at hnone) ?_
    rintro q n heq
    cases heq
    have hused := h.used _ _ _ _ hat
    unfold SampleUses.remove SamplePort.dropped
    simp only [reduceCtorEq, and_false, if_false, and_true]
    have hcount := hused.ref_count
    refine ⟨?_, hused.port_based, ?_, .inr ?_⟩
    · simp only [if_true]
      rw [BitVec.toNat_sub_of_le (by rw [BitVec.le_def, hcount]; exact Nat.le_of_lt hmany), hcount]
      rfl
    · rw [hused.flow_based]
      simp only [if_true, decide_eq_decide]
      omega
    · simp only [if_true]
      omega

theorem step {c} (h : PortNodesOk σ) (hok : SampleOpOk c σ) :
    PortNodesOk (sampleStep c σ) := by
  obtain ⟨env, op⟩ := c
  cases op with
  | portAdd sid port dir mode => exact h.portAdd hok
  | portRemove sid port dir mode => exact h.portRemove hok

end PortNodesOk

/-! ## Runs -/

/-- The port nodes are live while they are used: there is a node for a port and direction exactly
while the port or a flow uses it, its count is that of the flows, its mode bits say which uses
are on, and the nodes that are allocated are those in the trees. -/
structure PortsLive (σ : SampleSys) : Prop where
  there : ∀ sid key, (∃ s p port, σ.db.session sid = some s ∧ p ∈ s.port_tree ∧
      σ.db.ports.get p = some port ∧ port.key = key) ↔
    σ.uses.port_on sid key = true ∨ 0 < σ.uses.flows sid key
  node : ∀ sid s p port, σ.db.session sid = some s → p ∈ s.port_tree →
    σ.db.ports.get p = some port → port.ref_count.toNat = σ.uses.flows sid port.key ∧
      port.port_based = σ.uses.port_on sid port.key ∧
      (port.flow_based = true ↔ 0 < σ.uses.flows sid port.key)
  freed : ∀ p, σ.db.ports.get p = none ↔ ∀ sid s, σ.db.session sid = some s → p ∉ s.port_tree

theorem PortNodesOk.portsLive (h : PortNodesOk σ) : PortsLive σ := by
  have hnode : ∀ sid s p port, σ.db.session sid = some s → p ∈ s.port_tree →
      σ.db.ports.get p = some port →
      PortUsed port (σ.uses.port_on sid port.key) (σ.uses.flows sid port.key) :=
    fun sid s p port hs hp hport => h.used _ _ _ _ (h.trees.portAt_eq hs hp hport)
  refine ⟨fun sid key => ⟨?_, fun huse => ?_⟩, fun sid s p port hs hp hport => ?_, fun p => ?_⟩
  · rintro ⟨s, p, port, hs, hp, hport, rfl⟩
    exact (hnode sid s p port hs hp hport).used
  · cases hat : σ.db.portAt sid key with
    | some x =>
      obtain ⟨s, hs, hp, hport, hkey⟩ := portAt_some hat
      exact ⟨s, x.1, x.2, hs, hp, hport, hkey⟩
    | none =>
      obtain ⟨hoff, hzero⟩ := h.unused _ _ hat
      rw [hoff, hzero] at huse
      simp at huse
  · obtain ⟨href, hpb, hfb, -⟩ := hnode sid s p port hs hp hport
    exact ⟨href, hpb, by rw [hfb, decide_eq_true_iff]⟩
  · rw [← Option.not_isSome_iff_eq_none, h.trees.live p]
    push Not
    rfl

structure NoPorts (sid : Oid) (σ : SampleSys) : Prop where
  typed : sid.type = .samplePacket
  session : ∀ sid' s, σ.db.session sid' = some s → sid' = sid ∧ s.port_tree = []
  nodes : ∀ p, σ.db.ports.get p = none
  uses : ∀ sid' key, σ.uses.port_on sid' key = false ∧ σ.uses.flows sid' key = 0

theorem NoPorts.portNodesOk (h : NoPorts sid σ) : PortNodesOk σ := by
  have hempty : ∀ sid' s p, σ.db.session sid' = some s → p ∉ s.port_tree := by
    intro sid' s p hs hp
    rw [(h.session _ s hs).2] at hp
    simp at hp
  refine ⟨⟨fun sid' hs => ?_, fun p => ?_, fun _ _ s _ p hs _ hp _ => absurd hp (hempty _ _ _ hs),
    fun _ s p _ _ _ hs hp _ _ _ _ => absurd hp (hempty _ _ _ hs)⟩, fun sid' key _ => h.uses _ key,
    fun sid' key p port hat => ?_⟩
  · obtain ⟨s, hs⟩ := Option.isSome_iff_exists.mp hs
    rw [(h.session _ s hs).1]
    exact h.typed
  · rw [h.nodes p]
    refine iff_of_false (by simp) ?_
    rintro ⟨sid', s, hs, hp⟩
    exact hempty sid' s p hs hp
  · obtain ⟨s, hs, hp, -⟩ := portAt_some hat
    exact absurd hp (hempty sid' s p hs)

/-- **Port nodes are live while they are used** in every state that adds and removes of uses
reach, as long as the NPU library does not fail for a node that has a user already and the two
kinds of users do not come off a node that they share. -/
theorem portsLive_of_run {τ : SampleSys} (hs : NoPorts sid σ)
    (hrun : Run sampleStep SampleOpOk σ τ) : PortsLive τ :=
  (hrun.induct (P := PortNodesOk) (fun _ _ h hok => h.step hok) hs.portNodesOk).portsLive

/-! ## One session and one port -/

def SampleEnv.good : SampleEnv := ⟨fun _ _ => .success, fun _ _ => true, 1⟩

def SampleEnv.dead : SampleEnv := ⟨fun _ _ => .failure, fun _ _ => true, 1⟩

def session1 : SampleSys where
  db := ⟨fun sid => if sid = ⟨.samplePacket, 1⟩ then some ⟨0, 100, []⟩ else none, .empty, []⟩
  uses := ⟨fun _ _ => false, fun _ _ => 0⟩

theorem noPorts_session1 : NoPorts ⟨.samplePacket, 1⟩ session1 := by
  refine ⟨rfl, fun sid s hs => ?_, fun _ => rfl, fun _ _ => ⟨rfl, rfl⟩⟩
  have hs : (if sid = ⟨.samplePacket, 1⟩ then some (⟨0, 100, []⟩ : SampleSession) else none) =
    some s := hs
  split at hs
  next hsid =>
    cases hs
    exact ⟨hsid, rfl⟩
  · simp at hs

def addPort3 (mode : SampleMode) : SampleOpCall :=
  ⟨env, .portAdd ⟨.samplePacket, 1⟩ ⟨.port, 3⟩ .ingress mode⟩

def removePort3 (mode : SampleMode) : SampleOpCall :=
  ⟨env, .portRemove ⟨.samplePacket, 1⟩ ⟨.port, 3⟩ .ingress mode⟩

def flowOnPort3 : SampleSys := sampleStep (addPort3 .good .flowBased) session1

def bothOnPort3 : SampleSys := sampleStep (addPort3 .good .portBased) flowOnPort3

/-- The node of the port and a flow is freed while it is in the tree, when the port goes first;
it goes altogether when the flow goes first; it is freed when the port is added and the NPU
library refuses; and the count of a flow whose removal the NPU library refuses is gone. -/
theorem not_portsLive_port3 :
    NoPorts ⟨.samplePacket, 1⟩ session1 ∧
      ¬ PortsLive (sampleStep (removePort3 .good .portBased) bothOnPort3) ∧
      ¬ PortsLive (sampleStep (removePort3 .good .flowBased) bothOnPort3) ∧
      ¬ PortsLive (sampleStep (addPort3 .dead .portBased) flowOnPort3) ∧
      ¬ PortsLive (sampleStep (removePort3 .dead .flowBased) flowOnPort3) := by
  refine ⟨noPorts_session1, fun h => ?_, fun h => ?_, fun h => ?_, fun h => ?_⟩
  · exact (h.freed 1).mp (by decide) ⟨.samplePacket, 1⟩ ⟨0, 100, [1]⟩ (by decide) (by decide)
  · obtain ⟨s, p, port, hs, hp, -⟩ :=
      (h.there ⟨.samplePacket, 1⟩ ⟨⟨.port, 3⟩, .ingress⟩).mpr (.inl (by decide))
    have hsession : (sampleStep (removePort3 .good .flowBased) bothOnPort3).db.session
        ⟨.samplePacket, 1⟩ = some ⟨0, 100, []⟩ := by decide
    rw [hsession] at hs
    cases hs
    simp at hp
  · exact (h.freed 1).mp (by decide) ⟨.samplePacket, 1⟩ ⟨0, 100, [1]⟩ (by decide) (by decide)
  · have hcount := (h.node ⟨.samplePacket, 1⟩ ⟨0, 100, [1]⟩ 1 ⟨⟨⟨.port, 3⟩, .ingress⟩, 0, false, true⟩
      (by decide) (by decide) (by decide)).1
    revert hcount
    decide

theorem portsLive_of_run_flows :
    PortsLive (sampleStep (removePort3 .good .flowBased)
      (sampleStep (addPort3 .good .flowBased) flowOnPort3)) := by
  refine portsLive_of_run noPorts_session1
    (.snoc _ (.snoc _ (.snoc _ (.nil _) ?_) ?_) ?_)
  · exact ⟨by decide, fun _ _ => rfl⟩
  · exact ⟨by decide, fun _ _ => rfl⟩
  · exact ⟨by decide, fun hone => absurd hone (by decide)⟩

end OpxSai
