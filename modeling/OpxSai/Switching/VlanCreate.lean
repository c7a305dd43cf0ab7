import OpxSai.Switching.VlanStp

/-!
# Creating a VLAN

A create that fails should change nothing, and one that succeeds should make a new VLAN with every
attribute of its list. The code sets all attributes of a list that has more than one, and the VLAN id
is one of them: its set always fails, and each set that fails removes the VLAN.

* `vlanCreateLocked_cases` — the locked part: nothing changes, or the VLAN is created;
* `vlanCreateAllOrNothing_of_ok`, `vlanCreateAllOrNothing_iff` — the main result.
-/

namespace OpxSai

open VlanDb
variable {v : VlanId} (env : VlanEnv)

/-! ## The property -/

/-- Attributes of the same kind: a set of one takes the place of the other. -/
def VlanAttr.SameKind : VlanAttr → VlanAttr → Prop
  | .vlanId _, .vlanId _ | .maxLearnedAddresses _, .maxLearnedAddresses _
  | .stpInstance _, .stpInstance _ | .learnDisable _, .learnDisable _
  | .metaData _, .metaData _ => True
  | .acl id, .acl id' => id = id'
  | _, _ => False

/-- An attribute that can be set on a VLAN, with a value that the module takes. -/
def VlanAttr.Settable (db : VlanDb) : VlanAttr → Prop
  | .maxLearnedAddresses _ | .learnDisable _ | .metaData _ | .acl _ => True
  | .stpInstance oid => db.stp.Live oid
  | _ => False

variable {attr_list : List VlanAttr}

/-- A VLAN has an attribute. Nothing is kept for the ACL attributes. -/
def VlanDb.HasAttr (db : VlanDb) (v : VlanId) : VlanAttr → Prop
  | .maxLearnedAddresses u32 => db.max_learned_address v = u32
  | .stpInstance oid => db.stp.g_stp_vlan_map v = oid ∧ db.stp.InTree oid v
  | .learnDisable booldata => db.learn_disable v = booldata
  | .metaData u32 => db.meta_data v = u32
  | .acl _ => True
  | _ => False

variable {db : VlanDb}

/-- The VLAN list, the STP membership and the attributes of every VLAN are as they were. -/
structure VlansUnchanged (db db' : VlanDb) : Prop where
  list : db'.vlan_list = db.vlan_list
  inTree : ∀ s v, db'.stp.InTree s v ↔ db.stp.InTree s v
  map : db'.stp.g_stp_vlan_map = db.stp.g_stp_vlan_map
  max_learned_address : ∀ v, db.vlan_list v = true → db'.max_learned_address v = db.max_learned_address v
  learn_disable : ∀ v, db.vlan_list v = true → db'.learn_disable v = db.learn_disable v
  meta_data : ∀ v, db.vlan_list v = true → db'.meta_data v = db.meta_data v

/-- A create makes a new VLAN with the attributes of its list, of several of one kind the last, or it
changes nothing; and it succeeds when nothing stands against it. -/
structure VlanCreateAllOrNothing (env : VlanEnv) (attr_list : List VlanAttr) (v : VlanId)
    (db : VlanDb) : Prop where
  created : (vlanCreate env attr_list db).1 = .success →
    db.vlan_list v = false ∧ (vlanCreate env attr_list db).2.vlan_list v = true ∧
    ∀ before attr after, attr_list = before ++ attr :: after → attr ≠ .vlanId v →
      (∀ attr' ∈ after, ¬ attr.SameKind attr') → (vlanCreate env attr_list db).2.HasAttr v attr
  failed : (vlanCreate env attr_list db).1 ≠ .success →
    VlansUnchanged db (vlanCreate env attr_list db).2
  succeeds : env.AllSucceed → isVlanIdAvailable env v = .success →
    env.insert_in_list db.vlan_list db.outside_log v = .success →
    (∀ attr ∈ attr_list, attr = .vlanId v ∨ attr.Settable db) →
    (vlanCreate env attr_list db).1 = .success

namespace VlansUnchanged

theorem refl (db : VlanDb) : VlansUnchanged db db :=
  ⟨rfl, fun _ _ => .rfl, rfl, fun _ _ => rfl, fun _ _ => rfl, fun _ _ => rfl⟩

theorem trans {a b c} (hab : VlansUnchanged a b) (hbc : VlansUnchanged b c) :
    VlansUnchanged a c where
  list := hbc.list.trans hab.list
  inTree := fun s v => (hbc.inTree s v).trans (hab.inTree s v)
  map := hbc.map.trans hab.map
  max_learned_address := fun v hv => (hbc.max_learned_address v (hab.list ▸ hv)).trans (hab.max_learned_address v hv)
  learn_disable := fun v hv => (hbc.learn_disable v (hab.list ▸ hv)).trans (hab.learn_disable v hv)
  meta_data := fun v hv => (hbc.meta_data v (hab.list ▸ hv)).trans (hab.meta_data v hv)

theorem of_lock {db} (l : LockDepth) (log : CallLog VlanCall) :
    VlansUnchanged db { db with vlan_lock := l, outside_log := log } :=
  ⟨rfl, fun _ _ => .rfl, rfl, fun _ _ => rfl, fun _ _ => rfl, fun _ _ => rfl⟩

end VlansUnchanged

/-! ## The locked part -/

def vlanNpuCreate (env : VlanEnv) (v : VlanId) (db : VlanDb) : Status :=
  env.outside (db.outside_log ++ [(.insertList v, .success)]) (.vlanCreate v)

def VlanIsMade (env : VlanEnv) (v : VlanId) (db : VlanDb) : Prop :=
  isVlanIdAvailable env v = .success ∧
  env.insert_in_list db.vlan_list db.outside_log v = .success ∧
  (vlanNpuCreate env v db = .success ∨ vlanNpuCreate env v db = .itemAlreadyExists)

/-- What the last step of the locked part answers: a VLAN other than the default one goes to the
default STP instance, the default VLAN gets the NPU's answer. -/
def vlanMadeStatus (env : VlanEnv) (v : VlanId) (db : VlanDb) : Status :=
  if v ≠ initDefaultVlan then (stpDefaultStpVlanUpdate env.stp v db.stp).1
  else vlanNpuCreate env v db

/-- **The locked part**: it fails with nothing changed, or the VLAN is in the list. -/
theorem vlanCreateLocked_cases {v} {db} :
    (¬ VlanIsMade env v db ∧ (vlanCreateLocked env v db).1 ≠ .success ∧
      VlansUnchanged db (vlanCreateLocked env v db).2) ∨
    (VlanIsMade env v db ∧ (vlanCreateLocked env v db).1 = vlanMadeStatus env v db ∧
      db.vlan_list v = false ∧ (vlanCreateLocked env v db).2.vlan_list v = true) := by
  simp only [vlanCreateLocked]
  split
  next hno => exact .inl ⟨fun hmade => hno hmade.1, hno, .of_lock _ _⟩
  rename_i havail
  by_cases hins : env.insert_in_list db.vlan_list db.outside_log v = .success
  · have hfree := env.insert_once _ _ _ hins
    have hafter : db.lock.insertInList env v = (.success, { db.lock with
        vlan_list := fun w => if w = v then true else db.vlan_list w
        outside_log := db.outside_log ++ [(.insertList v, .success)] }) := by
      simp [VlanDb.insertInList, VlanDb.lock, hins]
    rw [hafter]
    dsimp only
    rw [if_neg (by simp)]
    split
    · -- the NPU refuses it: out of the list again
      rename_i hno
      have hback : (fun w => if w = v then false else
          (if w = v then true else db.vlan_list w)) = db.vlan_list := by
        funext w
        by_cases hw : w = v
        · simp [hw, hfree]
        · simp [hw]
      refine .inl ⟨?_, hno.1, ⟨hback, fun _ _ => .rfl, rfl, fun _ _ => rfl, fun _ _ => rfl,
        fun _ _ => rfl⟩⟩
      rintro ⟨-, -, hyes | hyes⟩
      · exact hno.1 hyes
      · exact hno.2 hyes
    rename_i hnpu
    have hmade : VlanIsMade env v db := by
      refine ⟨not_not.mp havail, hins, ?_⟩
      by_contra hno
      exact hnpu ⟨fun hyes => hno (.inl hyes), fun hyes => hno (.inr hyes)⟩
    refine .inr ⟨hmade, ?_⟩
    unfold vlanMadeStatus
    split
    · exact ⟨rfl, hfree, if_pos rfl⟩
    · exact ⟨rfl, hfree, if_pos rfl⟩
  · have hafter : db.lock.insertInList env v =
        (env.insert_in_list db.vlan_list db.outside_log v, { db.lock with
          outside_log := db.outside_log ++
            [(.insertList v, env.insert_in_list db.vlan_list db.outside_log v)] }) := by
      simp [VlanDb.insertInList, VlanDb.lock, hins]
    rw [hafter]
    dsimp only
    rw [if_pos hins]
    exact .inl ⟨fun hmade => hins hmade.2.1, hins, .of_lock _ _⟩

theorem vlanSetAttribute_unlisted {attr} (hno : db.vlan_list v = false) :
    (vlanSetAttribute env (vlanIdToVlanObjId v) attr db).1 ≠ .success ∧
    VlansUnchanged db (vlanSetAttribute env (vlanIdToVlanObjId v) attr db).2 := by
  simp only [vlanSetAttribute, vlanObjIdToVlanId_vlanIdToVlanObjId]
  split
  · exact ⟨by simp, .refl db⟩
  split
  · exact ⟨by simp, .refl db⟩
  split
  · exact ⟨by simp, .of_lock _ _⟩
  next hyes => exact absurd hno (by simpa [VlanDb.lock] using hyes)

theorem vlanRemove_unlisted (hno : db.vlan_list v = false) :
    VlansUnchanged db (vlanRemove env (vlanIdToVlanObjId v) db).2 := by
  have hconf : isVlanConfigurable env v db.lock ≠ .success := by
    unfold isVlanConfigurable
    split
    next hfail => exact hfail
    · simp [VlanDb.lock, hno]
  simp only [vlanRemove, vlanObjIdToVlanId_vlanIdToVlanObjId, vlanIdToVlanObjId_type]
  rw [if_neg (by simp), if_pos hconf]
  exact .of_lock _ _

/-- **The sets after a locked part that failed**, by induction over the attributes. -/
theorem vlanCreateAttrs_unlisted :
    ∀ {rc : Status} {db : VlanDb}, db.vlan_list v = false → rc ≠ .success →
      (vlanCreateAttrs env v attr_list rc db).1 ≠ .success ∧
      VlansUnchanged db (vlanCreateAttrs env v attr_list rc db).2 := by
  induction attr_list with
  | nil =>
    intro rc db _ hrc
    exact ⟨hrc, .refl db⟩
  | cons attr attr_list ih =>
    intro rc db hno _
    obtain ⟨hfail, hsame⟩ := vlanSetAttribute_unlisted env hno
    have hno' : (vlanSetAttribute env (vlanIdToVlanObjId v) attr db).2.vlan_list v = false := by
      rw [hsame.list]
      exact hno
    have hsame' := hsame.trans (vlanRemove_unlisted env hno')
    simp only [vlanCreateAttrs]
    rw [if_pos hfail]
    obtain ⟨hrc', hrest⟩ := ih (hsame'.list ▸ hno) hfail
    exact ⟨hrc', hsame'.trans hrest⟩

/-! ## The main result -/

/-- The condition on a create. With the VLAN id alone: if the VLAN is made then the last step
succeeds too. With more attributes: the VLAN is not there, and it is not made. -/
def VlanCreateOk (env : VlanEnv) (attr_list : List VlanAttr) (v : VlanId) (db : VlanDb) : Prop :=
  if 1 < attr_list.length then db.vlan_list v = false ∧ ¬ VlanIsMade env v db
  else VlanIsMade env v db → vlanMadeStatus env v db = .success

theorem eq_of_vlanIdOf (hv : vlanIdOf attr_list = some v) (hlen : ¬ 1 < attr_list.length) :
    attr_list = [.vlanId v] := by
  cases attr_list with
  | nil => exact absurd hv (by simp [vlanIdOf])
  | cons attr attr_list =>
    cases attr_list with
    | nil =>
      cases attr <;> simp [vlanIdOf] at hv
      rw [hv]
    | cons attr' attr_list =>
      refine absurd ?_ hlen
      simp

theorem VlanIsMade.of_allSucceed {env}
    (henv : env.AllSucceed) (havail : isVlanIdAvailable env v = .success)
    (hins : env.insert_in_list db.vlan_list db.outside_log v = .success) : VlanIsMade env v db :=
  ⟨havail, hins, .inl (henv.1 _ _)⟩

theorem vlanCreateAllOrNothing_of_ok {env}
    (hv : vlanIdOf attr_list = some v) (hok : VlanCreateOk env attr_list v db) :
    VlanCreateAllOrNothing env attr_list v db := by
  unfold VlanCreateOk at hok
  split at hok
  · -- the VLAN is not there when its attributes are set: every set fails
    rename_i hlen
    obtain ⟨hno, hmade⟩ := hok
    obtain ⟨-, hfail, hsame⟩ := (vlanCreateLocked_cases env).resolve_right
      fun hyes => hmade hyes.1
    have hcreate : vlanCreate env attr_list db = vlanCreateAttrs env v attr_list
        (vlanCreateLocked env v db).1 (vlanCreateLocked env v db).2 := by
      simp only [vlanCreate, hv]
      rw [if_pos hlen]
    obtain ⟨hrc, hrest⟩ := vlanCreateAttrs_unlisted env (hsame.list ▸ hno) hfail
    refine ⟨fun hyes => ?_, fun _ => ?_, fun henv havail hins _ => ?_⟩
    · rw [hcreate] at hyes
      exact absurd hyes hrc
    · rw [hcreate]
      exact hsame.trans hrest
    · exact absurd (.of_allSucceed henv havail hins) hmade
  next hlen =>
    obtain rfl := eq_of_vlanIdOf hv hlen
    have hcreate : vlanCreate env [.vlanId v] db = vlanCreateLocked env v db := rfl
    rcases vlanCreateLocked_cases env with ⟨hmade, hfail, hsame⟩ | ⟨hmade, hrc, hfree, hin⟩
    · refine ⟨fun hyes => absurd hyes hfail, fun _ => hsame, fun henv havail hins _ => ?_⟩
      exact absurd (.of_allSucceed henv havail hins) hmade
    have hsuccess : (vlanCreate env [.vlanId v] db).1 = .success := hrc.trans (hok hmade)
    refine ⟨fun _ => ⟨hfree, hin, fun before attr after hlist hne _ => ?_⟩,
      fun hno => absurd hsuccess hno, fun _ _ _ _ => hsuccess⟩
    have hmem : attr ∈ [VlanAttr.vlanId v] := by
      rw [hlist]
      simp
    exact absurd (by simpa using hmem) hne

/-- **A create of a VLAN is all or nothing** when the condition holds, and for a list that is the
VLAN id alone only then. -/
theorem vlanCreateAllOrNothing_iff {env : VlanEnv} {attr_list : List VlanAttr} {v : VlanId}
    {db : VlanDb} (hv : vlanIdOf attr_list = some v) :
    (VlanCreateOk env attr_list v db → VlanCreateAllOrNothing env attr_list v db) ∧
    (¬ 1 < attr_list.length → VlanCreateAllOrNothing env attr_list v db →
      VlanCreateOk env attr_list v db) := by
  refine ⟨vlanCreateAllOrNothing_of_ok hv, fun hlen h => ?_⟩
  unfold VlanCreateOk
  rw [if_neg hlen]
  intro hmade
  obtain rfl := eq_of_vlanIdOf hv hlen
  obtain ⟨-, hrc, hfree, hin⟩ := (vlanCreateLocked_cases env).resolve_left
    fun hno => hno.1 hmade
  by_contra hno
  -- the VLAN has come into the list, and the call fails
  have hlist := (h.failed (fun hyes => hno (hrc.symm.trans hyes))).list
  have hin' : db.vlan_list v = true := hlist ▸ hin
  rw [hfree] at hin'
  cases hin'

theorem vlanCreateAllOrNothing_iff_new :
    VlanCreateAllOrNothing (.good 7) [.vlanId 10] 10
      (.initial (.initial ⟨.stp, 1⟩ none 255)) :=
  (vlanCreateAllOrNothing_iff rfl).1 fun _ => by decide

/-- A new VLAN with one more attribute: the VLAN id in the list makes the call fail. -/
theorem not_vlanCreateAllOrNothing :
    ¬ VlanCreateAllOrNothing (.good 7) [.vlanId 10, .metaData 5] 10
      (.initial (.initial ⟨.stp, 1⟩ none 255)) := by
  intro h
  refine absurd (h.succeeds ⟨fun _ _ => rfl, fun _ _ => rfl⟩ (by decide) (by decide) ?_) (by decide)
  intro attr hattr
  have hcases : attr = .vlanId 10 ∨ attr = .metaData 5 := by simpa using hattr
  rcases hcases with rfl | rfl
  · exact .inl rfl
  · exact .inr trivial

end OpxSai
