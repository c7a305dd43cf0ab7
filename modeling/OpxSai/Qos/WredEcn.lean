import OpxSai.Lib.Run
import OpxSai.Qos.Wred

/-!
# The ECN flags of a WRED

The mode of a WRED and the flags of its colours are written in two steps: the flags are set for the
mode that the node has, and then the new mode is stored. So the flags are those of the mode before.

* `ecnModes` — the mode the flags are for and the mode that is stored, after a list of attributes;
* `wredEcn_of_run` — a call keeps the property exactly when it meets the condition, in any run.
-/

namespace OpxSai

open QosDb
variable {node : WredNode} {env : QosEnv} {wred_id : Oid} {db : QosDb}

/-! ## Property -/

def EcnMarkMode.names : EcnMarkMode → PacketColor → Bool
  | .none, _ => false
  | .green, color => color = .green
  | .yellow, color => color = .yellow
  | .red, color => color = .red
  | .greenYellow, color => color ≠ .red
  | .greenRed, color => color ≠ .yellow
  | .yellowRed, color => color ≠ .green
  | .all, _ => true
  | .other _, _ => false

def EcnMarkMode.listed : EcnMarkMode → Bool
  | .other _ => false
  | _ => true

variable {mode : EcnMarkMode}

def FlagsFor (mode : EcnMarkMode) (node : WredNode) : Prop :=
  ∀ color, (node.threshold color).ecn_enable = mode.names color

def EcnFollows (db : QosDb) : Prop :=
  ∀ o node, db.wreds o = some node → FlagsFor node.ecn_mark_mode node

/-- A set of a mode refuses what is no mode, and stores the mode when it succeeds. -/
structure EcnSetRight (env : QosEnv) (wred_id : Oid) (mode : EcnMarkMode) (db : QosDb) : Prop where
  refused : mode.listed = false →
    (wredAttributeSet env wred_id (.ecnMarkMode mode) db).1 ≠ .success ∧
    ∀ o, (wredAttributeSet env wred_id (.ecnMarkMode mode) db).2.wreds o = db.wreds o
  stored : (wredAttributeSet env wred_id (.ecnMarkMode mode) db).1 = .success →
    ∃ node, (wredAttributeSet env wred_id (.ecnMarkMode mode) db).2.wreds wred_id = some node ∧
      node.ecn_mark_mode = mode

/-! ## What a list of attributes does -/

def ecnModes : EcnMarkMode × EcnMarkMode → List WredAttr → EcnMarkMode × EcnMarkMode
  | modes, [] => modes
  | modes, .ecnMarkMode s32 :: attr_list => ecnModes (modes.2, s32) attr_list
  | modes, _ :: attr_list => ecnModes modes attr_list

/-- The value of an attribute is in its range; the value of a mode has none. -/
def WredAttr.InRange (env : QosEnv) : WredAttr → Prop
  | .enable _ _ => True
  | .minThreshold _ u32 => u32 ≤ env.max_buffer_limit
  | .maxThreshold _ u32 => u32 ≤ env.max_buffer_limit
  | .dropProbability _ u32 => u32 ≤ env.max_drop_prob
  | .weight u8 => u8 ≤ env.max_weight
  | .ecnMarkMode _ => True
  | .unknown _ => False

variable {attr : WredAttr} {attr_list : List WredAttr}

/-- The list goes through, from a node with the mode: values are in their ranges, and a mode follows a
mode of the enumeration. -/
def WredAttrsOk (env : QosEnv) : EcnMarkMode → List WredAttr → Prop
  | _, [] => True
  | mode, .ecnMarkMode s32 :: attr_list => mode.listed = true ∧ WredAttrsOk env s32 attr_list
  | mode, attr :: attr_list => attr.InRange env ∧ WredAttrsOk env mode attr_list

theorem qosEcnModeSet_listed (h : node.ecn_mark_mode.listed = true) :
    (qosEcnModeSet node).1 = .success ∧ FlagsFor node.ecn_mark_mode (qosEcnModeSet node).2 := by
  unfold qosEcnModeSet FlagsFor
  cases hmode : node.ecn_mark_mode with
  | other s32 =>
    rw [hmode] at h
    cases h
  | _ =>
    refine ⟨rfl, ?_⟩
    intro color
    cases color <;> rfl

theorem qosEcnModeSet_other (h : node.ecn_mark_mode.listed = false) :
    qosEcnModeSet node = (.invalidAttrValue 0, node) := by
  unfold qosEcnModeSet
  cases hmode : node.ecn_mark_mode with
  | other s32 => rfl
  | _ =>
    rw [hmode] at h
    cases h

theorem qosWredAttrSet_kept (hattr : ∀ s32, attr ≠ .ecnMarkMode s32) :
    ((qosWredAttrSet env node attr).1 = .success ↔ attr.InRange env) ∧
    (qosWredAttrSet env node attr).2.ecn_mark_mode = node.ecn_mark_mode ∧
    ∀ color, ((qosWredAttrSet env node attr).2.threshold color).ecn_enable =
      (node.threshold color).ecn_enable := by
  have hset : ∀ color (f : WredThreshold → WredThreshold), (∀ t, (f t).ecn_enable = t.ecn_enable) →
      ∀ c, ((node.setThreshold color f).threshold c).ecn_enable = (node.threshold c).ecn_enable := by
    intro color f hf c
    simp only [WredNode.setThreshold]
    split
    · exact hf _
    · rfl
  cases attr with
  | enable color booldata => exact ⟨iff_of_true rfl trivial, rfl, hset color _ fun _ => rfl⟩
  | minThreshold color u32 =>
    simp only [qosWredAttrSet, WredAttr.InRange]
    split
    next hle => exact ⟨iff_of_true rfl hle, rfl, hset color _ fun _ => rfl⟩
    next hle => exact ⟨iff_of_false (by simp) hle, rfl, fun _ => rfl⟩
  | maxThreshold color u32 =>
    simp only [qosWredAttrSet, WredAttr.InRange]
    split
    next hle => exact ⟨iff_of_true rfl hle, rfl, hset color _ fun _ => rfl⟩
    next hle => exact ⟨iff_of_false (by simp) hle, rfl, fun _ => rfl⟩
  | dropProbability color u32 =>
    simp only [qosWredAttrSet, WredAttr.InRange]
    split
    next hle => exact ⟨iff_of_true rfl hle, rfl, hset color _ fun _ => rfl⟩
    next hle => exact ⟨iff_of_false (by simp) hle, rfl, fun _ => rfl⟩
  | weight u8 =>
    simp only [qosWredAttrSet, WredAttr.InRange]
    split
    next hle => exact ⟨iff_of_true rfl hle, rfl, fun _ => rfl⟩
    next hle => exact ⟨iff_of_false (by simp) hle, rfl, fun _ => rfl⟩
  | ecnMarkMode s32 => exact absurd rfl (hattr s32)
  | unknown id => exact ⟨iff_of_false (by simp [qosWredAttrSet]) (fun h => h), rfl, fun _ => rfl⟩

/-- A list of attributes goes through when it may, and then the flags are for the mode before the one
that is stored. -/
theorem wredAttrsSet_ecn : ∀ list_idx node mode,
    FlagsFor mode node →
    ((wredAttrsSet env list_idx attr_list node).1 = .success ↔
      WredAttrsOk env node.ecn_mark_mode attr_list) ∧
    ((wredAttrsSet env list_idx attr_list node).1 = .success →
      (wredAttrsSet env list_idx attr_list node).2.ecn_mark_mode =
        (ecnModes (mode, node.ecn_mark_mode) attr_list).2 ∧
      FlagsFor (ecnModes (mode, node.ecn_mark_mode) attr_list).1
        (wredAttrsSet env list_idx attr_list node).2) := by
  induction attr_list with
  | nil => exact fun _ node mode hflags => ⟨iff_of_true rfl trivial, fun _ => ⟨rfl, hflags⟩⟩
  | cons attr attr_list ih =>
    intro list_idx node mode hflags
    by_cases hattr : ∃ s32, attr = .ecnMarkMode s32
    · obtain ⟨s32, rfl⟩ := hattr
      simp only [wredAttrsSet, qosWredAttrSet, ecnModes, WredAttrsOk]
      cases hlisted : node.ecn_mark_mode.listed with
      | false =>
        rw [qosEcnModeSet_other hlisted]
        simp [getIndexedRetVal]
      | true =>
        obtain ⟨hok, hfor⟩ := qosEcnModeSet_listed hlisted
        simp only [hok, true_and, if_true, ne_eq, not_true_eq_false, if_false]
        exact ih (list_idx + 1) { (qosEcnModeSet node).2 with ecn_mark_mode := s32 } _ hfor
    · have hattr' : ∀ s32, attr ≠ .ecnMarkMode s32 := fun s32 h => hattr ⟨s32, h⟩
      have hmodes : ∀ modes, ecnModes modes (attr :: attr_list) = ecnModes modes attr_list := by
        intro modes
        cases attr with
        | ecnMarkMode s32 => exact absurd rfl (hattr' s32)
        | _ => rfl
      have hlist : WredAttrsOk env node.ecn_mark_mode (attr :: attr_list) ↔
          attr.InRange env ∧ WredAttrsOk env node.ecn_mark_mode attr_list := by
        cases attr with
        | ecnMarkMode s32 => exact absurd rfl (hattr' s32)
        | _ => exact Iff.rfl
      obtain ⟨hrange, hmode, hkept⟩ := qosWredAttrSet_kept hattr'
      rw [hmodes, hlist]
      simp only [wredAttrsSet]
      split
      next hfail =>
        have hout : ¬ attr.InRange env := fun h => hfail (hrange.mpr h)
        have hbad := @getIndexedRetVal_ne_success _ list_idx hfail
        exact ⟨iff_of_false hbad fun h => hout h.1, fun h => absurd h hbad⟩
      rename_i hfail
      have hin : attr.InRange env := hrange.mp (not_not.mp hfail)
      have hflags' : FlagsFor mode (qosWredAttrSet env node attr).2 := by
        intro color
        rw [hkept color]
        exact hflags color
      obtain ⟨hiff, hafter⟩ := ih (list_idx + 1) (qosWredAttrSet env node attr).2 mode hflags'
      rw [hmode] at hiff hafter
      exact ⟨hiff.trans ⟨fun h => ⟨hin, h⟩, fun h => h.2⟩, hafter⟩

/-! ## Condition -/

inductive WredOp where
  | create (attr_list : List WredAttr)
  | remove (wred_id : Oid)
  | set (wred_id : Oid) (attr : WredAttr)
  | link (wred_link_id wred_id : Oid) (type : WredLink)

structure WredOpCall where
  env : QosEnv
  op : WredOp

def wredStep (c : WredOpCall) (db : QosDb) : QosDb :=
  match c.op with
  | .create attr_list => (wredCreate c.env attr_list db).2
  | .remove wred_id => (wredRemove c.env wred_id db).2
  | .set wred_id attr => (wredAttributeSet c.env wred_id attr db).2
  | .link wred_link_id wred_id type => (wredLinkSet c.env wred_link_id wred_id type db).2

def wredParsed (env : QosEnv) (attr_list : List WredAttr) (node : WredNode) : WredParams :=
  (wredAttrsSet env 0 attr_list node).2.toWredParams

/-- The condition on a call. A create that is taken ends its list with a mode that names the same
colours as the one before it. A mode that is set, and taken, is the mode that the WRED has. -/
def WredEcnOk (c : WredOpCall) (db : QosDb) : Prop :=
  match c.op with
  | .create attr_list =>
    c.env.wred_validate .create attr_list = .success → WredAttrsOk c.env .none attr_list →
      WredCreateTaken c.env (wredParsed c.env attr_list (wredDefault c.env)) db →
      ∀ color, (ecnModes (.none, .none) attr_list).1.names color =
        (ecnModes (.none, .none) attr_list).2.names color
  | .set wred_id attr => ∀ mode node, attr = .ecnMarkMode mode → wred_id.type = .wred →
      db.wreds wred_id = some node → c.env.wred_validate .set [attr] = .success →
      node.ecn_mark_mode.listed = true → WredSetTaken c.env (wredParsed c.env [attr] node) attr db →
      mode = node.ecn_mark_mode
  | _ => True

def WredCallRight (c : WredOpCall) (db : QosDb) : Prop :=
  match c.op with
  | .set wred_id (.ecnMarkMode mode) => EcnSetRight c.env wred_id mode db
  | _ => True

/-! ## The calls -/

theorem wredParse_ok {op_type} (hop : op_type ≠ .get) :
    ((wredParseUpdateAttributes env op_type attr_list node).1 = .success ↔
      env.wred_validate op_type attr_list = .success ∧
      (wredAttrsSet env 0 attr_list node).1 = .success) ∧
    (env.wred_validate op_type attr_list = .success →
      (wredParseUpdateAttributes env op_type attr_list node).2 =
        (wredAttrsSet env 0 attr_list node).2) := by
  simp only [wredParseUpdateAttributes]
  by_cases hvalid : env.wred_validate op_type attr_list = .success
  · simp [hvalid, hop]
  · simp [hvalid]

theorem EcnFollows.same {db'} (h : EcnFollows db) (hsame : WredParamsSame db db') :
    EcnFollows db' := by
  intro o node hnode
  have ho := hsame o
  rw [hnode] at ho
  obtain ⟨old, hold, hparams⟩ := Option.map_eq_some_iff.mp ho.symm
  have hfor := h o old hold
  intro color
  have hcolor := hfor color
  rw [show old.threshold = node.threshold from congrArg WredParams.threshold hparams,
    show old.ecn_mark_mode = node.ecn_mark_mode from congrArg WredParams.ecn_mark_mode hparams]
    at hcolor
  exact hcolor

theorem wredDefault_flags : FlagsFor .none (wredDefault env) :=
  fun _ => rfl

/-- **A create** keeps the property exactly when it meets the condition. -/
theorem wredCreate_ecn (h : EcnFollows db) :
    EcnFollows (wredCreate env attr_list db).2 ↔ WredEcnOk ⟨env, .create attr_list⟩ db := by
  obtain ⟨hok, hafter⟩ := wredAttrsSet_ecn 0 _ _ wredDefault_flags
  obtain ⟨hparse, hparsed⟩ := wredParse_ok (by simp : QosOp.create ≠ .get)
  unfold WredEcnOk wredParsed
  rcases wredCreate_cases with ⟨-, hwreds, hno⟩ | ⟨-, hparsedok, htaken, hwreds⟩
  · refine iff_of_true (h.same (.of_eq hwreds)) ?_
    intro hvalid hlist htaken
    rw [hparsed hvalid] at hno
    exact absurd htaken (hno (hparse.mpr ⟨hvalid, hok.mpr hlist⟩))
  obtain ⟨hvalid, hset⟩ := hparse.mp hparsedok
  obtain ⟨hmode, hflags⟩ := hafter hset
  rw [hparsed hvalid] at htaken
  have hcreated : FlagsFor (wredCreated env attr_list).ecn_mark_mode (wredCreated env attr_list) ↔
      ∀ color, (ecnModes (.none, .none) attr_list).1.names color =
        (ecnModes (.none, .none) attr_list).2.names color := by
    unfold FlagsFor wredCreated
    rw [hparsed hvalid]
    refine forall_congr' fun color => ?_
    show ((wredAttrsSet env 0 attr_list (wredDefault env)).2.threshold color).ecn_enable =
      (wredAttrsSet env 0 attr_list (wredDefault env)).2.ecn_mark_mode.names color ↔ _
    rw [hflags color, hmode]
    rfl
  constructor
  · intro hfollows _ _ _
    refine hcreated.mp (hfollows (uoidCreate .wred env.hw_wred_id) _ ?_)
    rw [hwreds]
    exact if_pos rfl
  · intro hcond o node hnode
    rw [hwreds] at hnode
    by_cases ho : o = uoidCreate .wred env.hw_wred_id
    · rw [if_pos ho] at hnode
      cases hnode
      exact hcreated.mpr (hcond hvalid (hok.mp hset) htaken)
    · rw [if_neg ho] at hnode
      exact h o node hnode

theorem wredAttrsSet_mode (env) (node) (mode) :
    ((wredAttrsSet env 0 [.ecnMarkMode mode] node).1 = .success ↔ node.ecn_mark_mode.listed = true) ∧
    (node.ecn_mark_mode.listed = true →
      (wredAttrsSet env 0 [.ecnMarkMode mode] node).2.ecn_mark_mode = mode ∧
      FlagsFor node.ecn_mark_mode (wredAttrsSet env 0 [.ecnMarkMode mode] node).2) := by
  simp only [wredAttrsSet, qosWredAttrSet]
  cases hlisted : node.ecn_mark_mode.listed with
  | false =>
    rw [qosEcnModeSet_other hlisted]
    simp [getIndexedRetVal]
  | true =>
    obtain ⟨hok, hfor⟩ := qosEcnModeSet_listed hlisted
    simp only [hok, if_true, ne_eq, not_true_eq_false, if_false]
    exact ⟨trivial, fun _ => ⟨trivial, hfor⟩⟩

/-- Two modes of the enumeration name the same colours only if they are one. -/
theorem EcnMarkMode.names_inj {mode'} (h : mode.listed = true)
    (h' : mode'.listed = true) (hnames : ∀ color, mode.names color = mode'.names color) :
    mode = mode' := by
  have hgreen := hnames .green
  have hyellow := hnames .yellow
  have hred := hnames .red
  clear hnames
  cases mode <;> cases mode' <;> simp_all [EcnMarkMode.names, EcnMarkMode.listed]

theorem wredAttributeSet_kept (h : EcnFollows db) (hattr : ∀ s32, attr ≠ .ecnMarkMode s32) :
    EcnFollows (wredAttributeSet env wred_id attr db).2 := by
  rcases wredAttributeSet_cases with
    ⟨-, hwreds, -⟩ | ⟨-, -, exist, hexist, hparse, -, hwreds⟩
  · exact h.same (.of_eq hwreds)
  · obtain ⟨hiff, hparsed⟩ := wredParse_ok (by simp : QosOp.set ≠ .get)
    obtain ⟨hvalid, hset⟩ := hiff.mp hparse
    rw [hparsed hvalid] at hwreds
    obtain ⟨-, hmode, hflags⟩ := qosWredAttrSet_kept hattr
    have hone : (wredAttrsSet env 0 [attr] exist).2 = (qosWredAttrSet env exist attr).2 := by
      simp only [wredAttrsSet]
      split <;> rfl
    rw [hone] at hwreds
    intro o node hnode
    rw [hwreds o] at hnode
    split at hnode
    · cases hnode
      intro color
      rw [hflags color, hmode]
      exact h wred_id exist hexist color
    · exact h o node hnode

/-- **A set of a mode** keeps the property, and does what it owes, exactly when it meets the
condition. -/
theorem wredAttributeSet_ecn (h : EcnFollows db) :
    EcnFollows (wredAttributeSet env wred_id (.ecnMarkMode mode) db).2 ∧
      EcnSetRight env wred_id mode db ↔ WredEcnOk ⟨env, .set wred_id (.ecnMarkMode mode)⟩ db := by
  rcases wredAttributeSet_cases with
    ⟨hfail, hwreds, hno⟩ | ⟨hok, htype, exist, hexist, hparse, htaken, hwreds⟩
  · refine iff_of_true ⟨h.same (.of_eq hwreds), ⟨fun _ => ⟨hfail, fun o => by rw [hwreds]⟩, ?_⟩⟩ ?_
    · exact fun hok => absurd hok hfail
    · rintro mode' node heq htype hnode hvalid hlisted htaken
      obtain rfl := WredAttr.ecnMarkMode.inj heq
      obtain ⟨hiff, hparsed⟩ := wredParse_ok (by simp : QosOp.set ≠ .get)
      have hset := (wredAttrsSet_mode env node mode).1.mpr hlisted
      refine absurd ?_ (hno node htype hnode (hiff.mpr ⟨hvalid, hset⟩))
      rw [hparsed hvalid]
      exact htaken
  · obtain ⟨hiff, hparsed⟩ := wredParse_ok (by simp : QosOp.set ≠ .get)
    obtain ⟨hvalid, hset⟩ := hiff.mp hparse
    obtain ⟨hmode, hflags⟩ := wredAttrsSet_mode env _ _
    have hlisted := hmode.mp hset
    obtain ⟨hstored, hfor⟩ := hflags hlisted
    rw [hparsed hvalid] at htaken hwreds
    have hat : (wredAttributeSet env wred_id (.ecnMarkMode mode) db).2.wreds wred_id =
        some (wredAttrsSet env 0 [.ecnMarkMode mode] exist).2 := by
      rw [hwreds wred_id]
      exact if_pos rfl
    constructor
    · rintro ⟨hfollows, hright⟩ mode' node heq - hnode - - -
      obtain rfl := WredAttr.ecnMarkMode.inj heq
      obtain rfl := Option.some.inj (hnode.symm.trans hexist)
      have hmodelisted : mode.listed = true := by
        cases hno : mode.listed with
        | true => rfl
        | false => exact absurd hok (hright.refused hno).1
      have hnew := hfollows wred_id _ hat
      rw [hstored] at hnew
      exact EcnMarkMode.names_inj hmodelisted hlisted fun color =>
        (hnew color).symm.trans (hfor color)
    · intro hcond
      have heq : mode = exist.ecn_mark_mode :=
        hcond mode exist rfl htype hexist hvalid hlisted htaken
      refine ⟨?_, ⟨?_, fun _ => ⟨_, hat, hstored⟩⟩⟩
      · intro o node hnode
        rw [hwreds o] at hnode
        split at hnode
        · cases hnode
          rw [hstored, heq]
          rw [← heq] at hfor ⊢
          exact hfor
        · exact h o node hnode
      · intro hno
        rw [heq, hlisted] at hno
        cases hno

/-! ## Runs -/

theorem WredCallRight.of_other {c}
    (hop : ∀ wred_id mode, c.op ≠ .set wred_id (.ecnMarkMode mode)) : WredCallRight c db := by
  obtain ⟨env, op⟩ := c
  cases op with
  | create attr_list | remove wred_id | link wred_link_id wred_id type => trivial
  | set wred_id attr =>
    cases attr with
    | ecnMarkMode mode => exact absurd rfl (hop wred_id mode)
    | _ => trivial

theorem wredStep_ecn (h : EcnFollows db) (c) :
    EcnFollows (wredStep c db) ∧ WredCallRight c db ↔ WredEcnOk c db := by
  obtain ⟨env, op⟩ := c
  cases op with
  | create attr_list => exact (and_iff_left trivial).trans (wredCreate_ecn h)
  | remove wred_id =>
    refine iff_of_true ⟨?_, trivial⟩ trivial
    rcases wredRemove_cases with ⟨-, hwreds⟩ | ⟨-, node, -, -, hwreds⟩
    · exact h.same (.of_eq hwreds)
    intro o node' hnode
    rw [show (wredStep ⟨env, .remove wred_id⟩ db).wreds o = _ from hwreds o] at hnode
    split at hnode
    · cases hnode
    · exact h o node' hnode
  | set wred_id attr =>
    by_cases hattr : ∃ mode, attr = .ecnMarkMode mode
    · obtain ⟨mode, rfl⟩ := hattr
      exact wredAttributeSet_ecn h
    have hattr' : ∀ mode, attr ≠ .ecnMarkMode mode := fun mode heq => hattr ⟨mode, heq⟩
    refine iff_of_true ⟨wredAttributeSet_kept h hattr', .of_other ?_⟩ ?_
    · intro w mode heq
      exact hattr' mode (WredOp.set.inj heq).2
    · exact fun mode node heq => absurd heq (hattr' mode)
  | link wred_link_id wred_id type => exact iff_of_true ⟨h.same .wredLinkSet, trivial⟩ trivial

/-- **Any run** of calls that meet the condition: the flags of every WRED follow its mode, and the
next call keeps that, and sets what it is asked to set, exactly when it meets the condition. -/
theorem wredEcn_of_run {db₀ db : QosDb} (hnone : ∀ o, db₀.wreds o = none)
    (hrun : Run wredStep WredEcnOk db₀ db) :
    EcnFollows db ∧
    ∀ c, EcnFollows (wredStep c db) ∧ WredCallRight c db ↔ WredEcnOk c db := by
  have hstart : EcnFollows db₀ := by
    intro o node hnode
    rw [hnone o] at hnode
    cases hnode
  have hfollows : EcnFollows db := by
    refine hrun.induct (P := EcnFollows) ?_ hstart
    exact fun c _ h hok => ((wredStep_ecn h c).mpr hok).1
  exact ⟨hfollows, wredStep_ecn hfollows⟩
theorem wredEcn_of_run_weight :
    let db := wredStep ⟨.good 7, .set ⟨.wred, 7⟩ (.weight 3)⟩
      (wredStep ⟨.good 7, .create [.ecnMarkMode .none]⟩ .initial)
    EcnFollows db ∧ ∀ c, EcnFollows (wredStep c db) ∧ WredCallRight c db ↔ WredEcnOk c db := by
  intro db
  refine wredEcn_of_run (fun _ => rfl) (.snoc _ (.snoc _ (.nil _) ?_) ?_)
  · exact fun _ _ _ _ => rfl
  · exact fun mode node heq => absurd heq (by simp)

/-- WRED 7 is created, and the mode that is set next has no flag. A number that is no mode is taken. -/
theorem not_wredEcn_green :
    ¬ (∀ db, Run wredStep (fun _ _ => True) .initial db → EcnFollows db) ∧
    ¬ (∀ db, Run wredStep (fun _ _ => True) .initial db → ∀ c, WredCallRight c db) := by
  have hrun : Run wredStep (fun _ _ => True) .initial
      (wredStep ⟨.good 7, .create []⟩ .initial) := .one _ trivial
  constructor
  · intro h
    have hgreen := h _ (.snoc ⟨.good 7, .set ⟨.wred, 7⟩ (.ecnMarkMode .green)⟩ hrun trivial)
      ⟨.wred, 7⟩ _ rfl .green
    cases hgreen
  · intro h
    have hright : EcnSetRight (.good 7) ⟨.wred, 7⟩ (.other 9)
        (wredStep ⟨.good 7, .create []⟩ .initial) :=
      h _ hrun ⟨.good 7, .set ⟨.wred, 7⟩ (.ecnMarkMode (.other 9))⟩
    exact (hright.refused rfl).1 rfl

end OpxSai
