import OpxSai.Qos.Wred

/-!
# A WRED and the objects that use it

Where a WRED is no object of the hardware, a set gives the new parameters to each queue, port pool and
buffer pool that uses it. The loop over the kinds goes on after a kind that failed: only that kind gets
the old parameters back, and the status is that of the last kind with an object.

* `wredSetAll_iff` — the property holds exactly under the condition.
-/

namespace OpxSai

open QosDb

variable {env : QosEnv} {db : QosDb} {old : WredNode} {new : WredParams}

/-! ## Property -/

variable {attr : WredAttr} {exist : WredNode} {answer : WredLink → Oid → Status}

def Programmed (links : WredLink → List Oid) (params : WredParams) (db : QosDb) : Prop :=
  ∀ type, ∀ o ∈ links type, db.hw_wred type o = some params

/-- The answers to the updates of the objects. The calls of the recovery succeed. -/
structure LinkPattern (env : QosEnv) (answer : WredLink → Oid → Status) : Prop where
  update : ∀ log o params type attached,
    env.outside log (.wredLinkSet o params type attached) = answer type o
  recover : ∀ log o params type, env.outside log (.wredLinkRestore o params type) = .success

def wredNew (env : QosEnv) (attr : WredAttr) (exist : WredNode) : WredNode :=
  (wredParseUpdateAttributes env .set [attr] exist).2

def WredSetAccepted (env : QosEnv) (attr : WredAttr) (exist : WredNode) (db : QosDb) : Prop :=
  (wredParseUpdateAttributes env .set [attr] exist).1 = .success ∧
  env.outside db.outside_log (.wredAttrSet (wredNew env attr exist).toWredParams attr) = .success

structure WredSetAll (env : QosEnv) (answer : WredLink → Oid → Status) (attr : WredAttr)
    (exist : WredNode) (db : QosDb) : Prop where
  success : (wredAttributeSet env exist.wred_id attr db).1 = .success →
    Programmed exist.links (wredNew env attr exist).toWredParams
      (wredAttributeSet env exist.wred_id attr db).2 ∧
    (wredAttributeSet env exist.wred_id attr db).2.wreds exist.wred_id = some (wredNew env attr exist)
  failed : (wredAttributeSet env exist.wred_id attr db).1 ≠ .success →
    Programmed exist.links exist.toWredParams (wredAttributeSet env exist.wred_id attr db).2 ∧
    (wredAttributeSet env exist.wred_id attr db).2.wreds exist.wred_id = some exist
  error : WredSetAccepted env attr exist db → (∃ type, ∃ o ∈ exist.links type, answer type o ≠ .success) →
    (wredAttributeSet env exist.wred_id attr db).1 ≠ .success

theorem wredLinkErrorRecovery_hw (hpattern : LinkPattern env answer) (old)
    (type) (links) :
    ∀ count db t o, (wredLinkErrorRecovery env old type links count db).hw_wred t o =
      if t = type ∧ o ∈ links.take count then some old else db.hw_wred t o := by
  induction links with
  | nil =>
    intro count db t o
    rw [if_neg (by simp)]
    rfl
  | cons wred_link_id rest ih =>
    intro count db t o
    cases count with
    | zero =>
      rw [if_neg (by simp)]
      rfl
    | succ count =>
      have hok : (db.call env (.wredLinkRestore wred_link_id old type)).1 = .success :=
        hpattern.recover _ _ _ _
      simp only [wredLinkErrorRecovery]
      rw [if_ok hok, ih, call_ok_wredLinkRestore db env _ _ _ hok, List.take_succ_cons]
      by_cases htype : t = type
      · by_cases hrest : o ∈ rest.take count
        · simp [htype, hrest]
        · by_cases ho : o = wred_link_id <;> simp [htype, hrest, ho]
      · simp [htype]

/-! ## The loop over one kind -/

theorem wredUpdateLinkType_other (hpattern : LinkPattern env answer) (old) (new)
    (type)
    (links) : ∀ at_ t o, t ≠ type →
      (wredUpdateLinkType env old new type links at_).db.hw_wred t o = at_.db.hw_wred t o := by
  induction links with
  | nil => exact fun _ _ _ _ => rfl
  | cons wred_link_id rest ih =>
    intro at_ t o hother
    simp only [wredUpdateLinkType]
    split
    next hfail =>
      rw [wredLinkErrorRecovery_hw hpattern, if_neg (fun h => hother h.1)]
      exact congrFun (congrFun (call_failed_hw _ _ _ hfail).1 t) o
    rename_i hok
    rw [ih _ t o hother]
    exact (call_ok_wredLinkSet _ env _ _ _ _ (not_not.mp hok)).trans
      (if_neg fun h => hother h.1)

theorem wredUpdateLinkType_done (hpattern : LinkPattern env answer) {type : WredLink} {links : List Oid} :
    ∀ at_, (∀ o ∈ links, answer type o = .success) →
      (wredUpdateLinkType env old new type links at_).rc = (if links = [] then at_.rc else .success) ∧
      ∀ o, (wredUpdateLinkType env old new type links at_).db.hw_wred type o =
        if o ∈ links then some new else at_.db.hw_wred type o := by
  induction links with
  | nil =>
    intro at_ _
    refine ⟨rfl, fun o => ?_⟩
    rw [if_neg (by simp)]
    rfl
  | cons wred_link_id rest ih =>
    intro at_ hall
    have hok : (npuWredLinkSet env wred_link_id new type at_.db).1 = .success :=
      (hpattern.update _ _ _ _ _).trans (hall wred_link_id List.mem_cons_self)
    simp only [wredUpdateLinkType]
    rw [if_ok hok]
    obtain ⟨hrc, hhw⟩ := ih
      ⟨(npuWredLinkSet env wred_link_id new type at_.db).1, at_.count + 1,
        (npuWredLinkSet env wred_link_id new type at_.db).2⟩
      fun o ho => hall o (List.mem_cons_of_mem _ ho)
    constructor
    · rw [hrc, if_neg (List.cons_ne_nil _ _)]
      split
      · exact hok
      · rfl
    · intro o
      rw [hhw o, show (npuWredLinkSet env wred_link_id new type at_.db).2.hw_wred type o = _ from
        call_ok_wredLinkSet _ env _ _ _ _ hok]
      by_cases hrest : o ∈ rest
      · simp [hrest]
      · by_cases ho : o = wred_link_id <;> simp [hrest, ho]

/-- **A kind with an object that does not take them.** What was updated in it, and counted, has the
old parameters again. The induction is on what is left of the list. -/
theorem wredUpdateLinkType_failed (hpattern : LinkPattern env answer) (old)
    (new) (type)
    (rest) : ∀ updated at_, old.links type = updated ++ rest →
      updated.length ≤ at_.count → (∀ o ∈ rest, o ∈ updated ∨ at_.db.hw_wred type o = some old.toWredParams) →
      (∃ o ∈ rest, answer type o ≠ .success) → (wredUpdateLinkType env old new type rest at_).rc ≠ .success ∧
      ∀ o ∈ old.links type,
        (wredUpdateLinkType env old new type rest at_).db.hw_wred type o =
          some old.toWredParams := by
  induction rest with
  | nil =>
    rintro updated at_ - - - ⟨o, ho, -⟩
    cases ho
  | cons wred_link_id rest ih =>
    intro updated at_ hlinks hcount hold hfails
    have hanswer : (npuWredLinkSet env wred_link_id new type at_.db).1 = answer type wred_link_id :=
      hpattern.update _ _ _ _ _
    simp only [wredUpdateLinkType]
    split
    next hfail =>
      refine ⟨hfail, fun o ho => ?_⟩
      rw [wredLinkErrorRecovery_hw hpattern]
      split
      · rfl
      rename_i hnot
      rw [show (npuWredLinkSet env wred_link_id new type at_.db).2.hw_wred = _ from
        (call_failed_hw _ _ _ hfail).1]
      -- what was updated is among the first `count` objects
      have hnew : o ∉ updated := by
        intro hin
        refine hnot ⟨rfl, ?_⟩
        rw [hlinks, List.take_append, List.take_of_length_le hcount]
        exact List.mem_append_left _ hin
      rw [hlinks] at ho
      rcases List.mem_append.mp ho with hin | hin
      · exact absurd hin hnew
      · exact (hold o hin).resolve_left hnew
    next hok =>
      have htaken : answer type wred_link_id = .success := hanswer.symm.trans (not_not.mp hok)
      refine ih (updated ++ [wred_link_id]) _ ?_ ?_ ?_ ?_
      · rw [hlinks]
        simp
      · simp only [List.length_append, List.length_singleton]
        omega
      · intro o ho
        by_cases hself : o = wred_link_id
        · exact .inl (List.mem_append_right _ (List.mem_singleton.mpr hself))
        refine (hold o (List.mem_cons_of_mem _ ho)).imp (List.mem_append_left _) fun hhw => ?_
        rw [show (npuWredLinkSet env wred_link_id new type at_.db).2.hw_wred type o = _ from
          call_ok_wredLinkSet _ env _ _ _ _ (not_not.mp hok), if_neg fun h => hself h.2]
        exact hhw
      · obtain ⟨o, ho, hbad⟩ := hfails
        rcases List.mem_cons.mp ho with heq | ho
        · rw [heq] at hbad
          exact absurd htaken hbad
        · exact ⟨o, ho, hbad⟩

/-! ## All kinds -/

/-- Some object of the kind does not take the new parameters. -/
def KindFails (answer : WredLink → Oid → Status) (links : WredLink → List Oid) (type : WredLink) :
    Prop :=
  ∃ o ∈ links type, answer type o ≠ .success

def WredLink.rank : WredLink → Nat
  | .queue => 0
  | .port => 1
  | .bufferPool => 2

variable {type : WredLink} {links : WredLink → List Oid}

def LastFails (answer : WredLink → Oid → Status) (links : WredLink → List Oid) : Prop :=
  ∃ type, KindFails answer links type ∧ ∀ type', type.rank < type'.rank → links type' = []

theorem KindFails.ne_nil (h : KindFails answer links type) :
    links type ≠ [] := by
  obtain ⟨o, ho, -⟩ := h
  exact List.ne_nil_of_mem ho

theorem lastFails_iff (answer : WredLink → Oid → Status) (links : WredLink → List Oid) :
    LastFails answer links ↔ KindFails answer links .bufferPool ∨
      (links .bufferPool = [] ∧ (KindFails answer links .port ∨
        (links .port = [] ∧ KindFails answer links .queue))) := by
  constructor
  · rintro ⟨type, hfails, hafter⟩
    cases type with
    | bufferPool => exact .inl hfails
    | port => exact .inr ⟨hafter .bufferPool (by decide), .inl hfails⟩
    | queue => exact .inr ⟨hafter .bufferPool (by decide), .inr ⟨hafter .port (by decide), hfails⟩⟩
  · rintro (hfails | ⟨hpools, hfails | ⟨hports, hfails⟩⟩)
    · refine ⟨.bufferPool, hfails, fun type' hlt => ?_⟩
      cases type' <;> exact absurd hlt (by decide)
    · refine ⟨.port, hfails, fun type' hlt => ?_⟩
      cases type' with
      | bufferPool => exact hpools
      | queue | port => exact absurd hlt (by decide)
    · refine ⟨.queue, hfails, fun type' hlt => ?_⟩
      cases type' with
      | bufferPool => exact hpools
      | port => exact hports
      | queue => exact absurd hlt (by decide)

/-- Where every kind with objects fails, the last one does. -/
theorem lastFails_of_every (hevery : ∀ type, links type ≠ [] → KindFails answer links type)
    (hfails : KindFails answer links type) : LastFails answer links := by
  rw [lastFails_iff]
  by_cases hpools : links .bufferPool = []
  swap
  · exact .inl (hevery .bufferPool hpools)
  by_cases hports : links .port = []
  swap
  · exact .inr ⟨hpools, .inl (hevery .port hports)⟩
  cases type with
  | queue => exact .inr ⟨hpools, .inr ⟨hports, hfails⟩⟩
  | port => exact absurd hports hfails.ne_nil
  | bufferPool => exact absurd hpools hfails.ne_nil

theorem wredUpdateLinkType_kind
    (hpattern : LinkPattern env answer) (old) (new) (type)
    (at_) (hold : ∀ o ∈ old.links type, at_.db.hw_wred type o = some old.toWredParams) :
    (KindFails answer old.links type →
      (wredUpdateLinkType env old new type (old.links type) at_).rc ≠ .success ∧
      ∀ o ∈ old.links type,
        (wredUpdateLinkType env old new type (old.links type) at_).db.hw_wred type o =
          some old.toWredParams) ∧ (¬ KindFails answer old.links type →
      (wredUpdateLinkType env old new type (old.links type) at_).rc =
        (if old.links type = [] then at_.rc else .success) ∧
      ∀ o ∈ old.links type,
        (wredUpdateLinkType env old new type (old.links type) at_).db.hw_wred type o = some new) := by
  constructor
  · intro hfails
    refine wredUpdateLinkType_failed hpattern old new _ _ [] at_ rfl ?_ ?_ hfails
    · exact Nat.zero_le _
    · exact fun o ho => .inr (hold o ho)
  · intro hno
    have hall : ∀ o ∈ old.links type, answer type o = .success := by
      intro o ho
      by_contra hbad
      exact hno ⟨o, ho, hbad⟩
    obtain ⟨hrc, hhw⟩ := wredUpdateLinkType_done hpattern at_ hall
    refine ⟨hrc, fun o ho => ?_⟩
    rw [hhw o, if_pos ho]

/-- **The loop over the kinds.** A kind that fails has the old parameters and the others have the new
ones; the status is that of the last kind with objects. -/
theorem wredUpdateLink_kinds (hpattern : LinkPattern env answer)
    (hin : db.wreds new.wred_id = some old) (hold : Programmed old.links old.toWredParams db) :
    ((wredUpdateLink env new db).1 ≠ .success ↔ LastFails answer old.links) ∧
    (∀ type, KindFails answer old.links type → ∀ o ∈ old.links type,
      (wredUpdateLink env new db).2.hw_wred type o = some old.toWredParams) ∧
    (∀ type, ¬ KindFails answer old.links type → ∀ o ∈ old.links type,
      (wredUpdateLink env new db).2.hw_wred type o = some new) := by
  simp only [wredUpdateLink, hin, List.foldl_cons, List.foldl_nil]
  have hother := fun type at_ => wredUpdateLinkType_other hpattern old new type (old.links type) at_
  have hkind := fun type at_ => wredUpdateLinkType_kind hpattern old new type at_
  generalize hq : wredUpdateLinkType env old new .queue (old.links .queue) ⟨.success, 0, db⟩ = queues
  generalize hp : wredUpdateLinkType env old new .port (old.links .port) queues = ports
  generalize hb : wredUpdateLinkType env old new .bufferPool (old.links .bufferPool) ports = pools
  -- what each loop finds, and what the loops after it leave
  have hqueues := hkind .queue ⟨.success, 0, db⟩ (hold .queue)
  have hports := hkind .port queues fun o ho => by
    rw [← hq, hother .queue _ .port o (by decide)]
    exact hold .port o ho
  have hpools := hkind .bufferPool ports fun o ho => by
    rw [← hp, hother .port _ .bufferPool o (by decide), ← hq,
      hother .queue _ .bufferPool o (by decide)]
    exact hold .bufferPool o ho
  have hleftq : ∀ o, pools.db.hw_wred .queue o = queues.db.hw_wred .queue o := by
    intro o
    rw [← hb, hother .bufferPool _ .queue o (by decide), ← hp, hother .port _ .queue o (by decide)]
  have hleftp : ∀ o, pools.db.hw_wred .port o = ports.db.hw_wred .port o := by
    intro o
    rw [← hb, hother .bufferPool _ .port o (by decide)]
  rw [hq] at hqueues
  rw [hp] at hports
  rw [hb] at hpools
  refine ⟨?_, ?_, ?_⟩
  · rw [lastFails_iff]
    by_cases hfb : KindFails answer old.links .bufferPool
    · exact iff_of_true (hpools.1 hfb).1 (.inl hfb)
    rw [(hpools.2 hfb).1]
    by_cases hnb : old.links .bufferPool = []
    swap
    · rw [if_neg hnb]
      simp [hfb, hnb]
    rw [if_pos hnb]
    by_cases hfp : KindFails answer old.links .port
    · exact iff_of_true (hports.1 hfp).1 (.inr ⟨hnb, .inl hfp⟩)
    rw [(hports.2 hfp).1]
    by_cases hnp : old.links .port = []
    swap
    · rw [if_neg hnp]
      simp [hfb, hfp, hnp]
    rw [if_pos hnp]
    by_cases hfq : KindFails answer old.links .queue
    · exact iff_of_true (hqueues.1 hfq).1 (.inr ⟨hnb, .inr ⟨hnp, hfq⟩⟩)
    · rw [(hqueues.2 hfq).1]
      simp [hfb, hfp, hfq]
  · intro type hfails o ho
    cases type with
    | queue => rw [hleftq]; exact (hqueues.1 hfails).2 o ho
    | port => rw [hleftp]; exact (hports.1 hfails).2 o ho
    | bufferPool => exact (hpools.1 hfails).2 o ho
  · intro type hno o ho
    cases type with
    | queue => rw [hleftq]; exact (hqueues.2 hno).2 o ho
    | port => rw [hleftp]; exact (hports.2 hno).2 o ho
    | bufferPool => exact (hpools.2 hno).2 o ho

/-! ## The set -/

/-- The condition. The set does not get to the objects, all of them take the new parameters, every kind
with objects fails, or the parameters are what they were and the last kind with objects fails. -/
def WredUpdateOk (env : QosEnv) (answer : WredLink → Oid → Status) (attr : WredAttr)
    (exist : WredNode) (db : QosDb) : Prop :=
  ¬ WredSetAccepted env attr exist db ∨
  (∀ type, ∀ o ∈ exist.links type, answer type o = .success) ∨
  (∀ type, exist.links type ≠ [] → KindFails answer exist.links type) ∨
  ((wredNew env attr exist).toWredParams = exist.toWredParams ∧ LastFails answer exist.links)

theorem wredAttributeSet_refused (hexist : db.wreds exist.wred_id = some exist)
    (hno : ¬ WredSetAccepted env attr exist db) :
    (wredAttributeSet env exist.wred_id attr db).1 ≠ .success ∧
    (wredAttributeSet env exist.wred_id attr db).2.hw_wred = db.hw_wred ∧
    (wredAttributeSet env exist.wred_id attr db).2.wreds = db.wreds := by
  simp only [wredAttributeSet]
  split
  · exact ⟨by simp, rfl, rfl⟩
  rw [show db.lock.wreds exist.wred_id = some exist from hexist]
  simp only
  split
  next hparse => exact ⟨hparse, rfl, rfl⟩
  rename_i hparse
  have hset : (db.lock.call env (.wredAttrSet (wredNew env attr exist).toWredParams attr)).1 ≠
      .success := fun h => hno ⟨not_not.mp hparse, h⟩
  rw [show wredParseUpdateAttributes env .set [attr] exist = (_, wredNew env attr exist) from rfl]
  rw [if_pos hset]
  exact ⟨hset, (call_failed_hw _ _ _ hset).1, call_wreds _ env _⟩

theorem wredAttributeSet_accepted (hhw : env.wred_is_hw_object = false) (htype : exist.wred_id.type = .wred)
    (hexist : db.wreds exist.wred_id = some exist) (hacc : WredSetAccepted env attr exist db) :
    ∃ at_, at_.wreds = db.wreds ∧ at_.hw_wred = db.hw_wred ∧ (wredAttributeSet env exist.wred_id attr db).1 =
        (wredUpdateLink env (wredNew env attr exist).toWredParams at_).1 ∧
      (wredAttributeSet env exist.wred_id attr db).2.hw_wred =
        (wredUpdateLink env (wredNew env attr exist).toWredParams at_).2.hw_wred ∧
      (wredAttributeSet env exist.wred_id attr db).2.wreds exist.wred_id =
        if (wredUpdateLink env (wredNew env attr exist).toWredParams at_).1 = .success then
          some (wredNew env attr exist) else some exist := by
  obtain ⟨hparse, hset⟩ := hacc
  have hset' : (db.lock.call env (.wredAttrSet (wredNew env attr exist).toWredParams attr)).1 =
      .success := hset
  refine ⟨(db.lock.call env (.wredAttrSet (wredNew env attr exist).toWredParams attr)).2,
    call_wreds db.lock env _, ?_, ?_⟩
  · rw [call_ok _ _ _ hset']
    rfl
  simp only [wredAttributeSet]
  rw [if_ok htype, show db.lock.wreds exist.wred_id = some exist from hexist]
  simp only
  rw [if_ok hparse]
  rw [show wredParseUpdateAttributes env .set [attr] exist = (_, wredNew env attr exist) from rfl]
  rw [if_ok hset', hhw]
  simp only [Bool.false_eq_true, if_false]
  have hwreds := (wredUpdateLink_nodes env (wredNew env attr exist).toWredParams
    (db.lock.call env (.wredAttrSet (wredNew env attr exist).toWredParams attr)).2).wreds
  rw [call_wreds] at hwreds
  by_cases hok : (wredUpdateLink env (wredNew env attr exist).toWredParams
      (db.lock.call env (.wredAttrSet (wredNew env attr exist).toWredParams attr)).2).1 = .success
  · rw [if_ok hok, if_pos hok]
    exact ⟨hok.symm, rfl, if_pos rfl⟩
  · rw [if_pos hok, if_neg hok]
    exact ⟨rfl, rfl, (congrFun hwreds exist.wred_id).trans hexist⟩

/-- **Main result.** A set is for all objects or for none exactly under the condition, whatever the
lists of the WRED and the answers to its updates are. -/
theorem wredSetAll_iff {env : QosEnv} {answer : WredLink → Oid → Status} {attr : WredAttr}
    {exist : WredNode} {db : QosDb} (hhw : env.wred_is_hw_object = false)
    (hpattern : LinkPattern env answer) (htype : exist.wred_id.type = .wred)
    (hexist : db.wreds exist.wred_id = some exist)
    (hold : Programmed exist.links exist.toWredParams db) :
    WredSetAll env answer attr exist db ↔ WredUpdateOk env answer attr exist db := by
  by_cases hacc : WredSetAccepted env attr exist db
  swap
  · obtain ⟨hfail, hhws, hwreds⟩ := wredAttributeSet_refused hexist hacc
    refine iff_of_true ⟨fun hok => absurd hok hfail, fun _ => ⟨?_, ?_⟩, fun _ _ => hfail⟩ (.inl hacc)
    · intro type o ho
      rw [hhws]
      exact hold type o ho
    · rw [hwreds]
      exact hexist
  obtain ⟨at_, hatw, hath, hrc, hhws, hwreds⟩ := wredAttributeSet_accepted hhw htype hexist hacc
  have hid : (wredNew env attr exist).wred_id = exist.wred_id :=
    (wredParse_links env).1
  have hin : at_.wreds (wredNew env attr exist).wred_id = some exist := by
    rw [hid, hatw]
    exact hexist
  have hold' : Programmed exist.links exist.toWredParams at_ := by
    intro type o ho
    rw [hath]
    exact hold type o ho
  obtain ⟨hlast, hfailed, hdone⟩ := wredUpdateLink_kinds hpattern hin hold'
  rw [← hrc] at hlast hwreds
  rw [← hhws] at hfailed hdone
  constructor
  · rintro ⟨-, hfail, herror⟩
    by_cases hall : ∀ type, ∀ o ∈ exist.links type, answer type o = .success
    · exact .inr (.inl hall)
    have hsome : ∃ type, ∃ o ∈ exist.links type, answer type o ≠ .success := by
      by_contra hno
      refine hall fun type o ho => ?_
      by_contra hbad
      exact hno ⟨type, o, ho, hbad⟩
    have hbad := herror hacc hsome
    by_cases hevery : ∀ type, exist.links type ≠ [] → KindFails answer exist.links type
    · exact .inr (.inr (.inl hevery))
    -- a kind that did not fail has the new parameters and is to have the old ones
    obtain ⟨type, hkind⟩ := not_forall.mp hevery
    obtain ⟨hne, hno⟩ := Classical.not_imp.mp hkind
    obtain ⟨o, ho⟩ := List.exists_mem_of_ne_nil _ hne
    have hsame := (hdone type hno o ho).symm.trans ((hfail hbad).1 type o ho)
    exact .inr (.inr (.inr ⟨Option.some.inj hsame, hlast.mp hbad⟩))
  · intro hcond
    have hcond' := hcond.resolve_left (not_not.mpr hacc)
    refine ⟨fun hok => ?_, fun hbad => ?_, fun _ hsome => ?_⟩
    · rw [if_pos hok] at hwreds
      refine ⟨fun type o ho => ?_, hwreds⟩
      by_cases hkind : KindFails answer exist.links type
      swap
      · exact hdone type hkind o ho
      rcases hcond' with hall | hevery | ⟨hsame, hl⟩
      · obtain ⟨o', ho', hbad⟩ := hkind
        exact absurd (hall type o' ho') hbad
      · exact absurd (lastFails_of_every hevery hkind) fun h => hlast.mpr h hok
      · exact absurd hok (hlast.mpr hl)
    · rw [if_neg hbad] at hwreds
      refine ⟨fun type o ho => ?_, hwreds⟩
      by_cases hkind : KindFails answer exist.links type
      · exact hfailed type hkind o ho
      rcases hcond' with hall | hevery | ⟨hsame, -⟩
      · obtain ⟨type', ⟨o', ho', hbad'⟩, -⟩ := hlast.mp hbad
        exact absurd (hall type' o' ho') hbad'
      · exact absurd (hevery type (List.ne_nil_of_mem ho)) hkind
      have hnew := hdone type hkind o ho
      rw [hsame] at hnew
      exact hnew
    · obtain ⟨type, o, ho, hbad⟩ := hsome
      rcases hcond' with hall | hevery | ⟨-, hl⟩
      · exact absurd (hall type o ho) hbad
      · exact hlast.mpr (lastFails_of_every hevery ⟨o, ho, hbad⟩)
      · exact hlast.mpr hl

def wredOnBoth : WredNode :=
  { wredDefault (.good 7) with
    wred_id := ⟨.wred, 7⟩
    links := fun type =>
      if type = .queue then [⟨.queue, 1⟩] else if type = .bufferPool then [⟨.bufferPool, 2⟩] else [] }

def wredOnBothDb : QosDb :=
  { QosDb.initial with
    wreds := fun o => if o = ⟨.wred, 7⟩ then some wredOnBoth else none
    hw_wred := fun _ _ => some wredOnBoth.toWredParams }

theorem wredSetAll_iff_weight :
    WredSetAll (.good 7) (fun _ _ => .success) (.weight 3) wredOnBoth wredOnBothDb := by
  refine (wredSetAll_iff rfl ⟨?_, ?_⟩ rfl rfl ?_).mpr (.inr (.inl ?_))
  · exact fun _ _ _ _ _ => rfl
  · exact fun _ _ _ _ => rfl
  · exact fun _ _ _ => rfl
  · exact fun _ _ _ => rfl

def queuesRefuse : WredLink → Oid → Status
  | .queue, _ => .failure
  | _, _ => .success

def queuesRefuseOutside : Outside QosCall
  | _, .wredLinkSet _ _ .queue _ => .failure
  | _, _ => .success

/-- The pool comes after the queue: the set succeeds, and the queue has the old weight. -/
theorem not_wredSetAll_queue :
    ¬ (∀ env answer attr exist db, env.wred_is_hw_object = false → LinkPattern env answer →
      exist.wred_id.type = .wred → db.wreds exist.wred_id = some exist →
      Programmed exist.links exist.toWredParams db → WredSetAll env answer attr exist db) := by
  intro h
  have hpattern : LinkPattern (.answers queuesRefuseOutside 7) queuesRefuse := by
    refine ⟨?_, fun _ _ _ _ => rfl⟩
    intro log o params type attached
    cases type <;> rfl
  have hall := h (.answers queuesRefuseOutside 7) queuesRefuse (.weight 3) wredOnBoth wredOnBothDb
    rfl hpattern rfl rfl (fun _ _ _ => rfl)
  exact hall.error ⟨rfl, rfl⟩ ⟨.queue, ⟨.queue, 1⟩, by decide, by decide⟩ rfl

end OpxSai
