import OpxSai.Acl.TableGroup
import OpxSai.Lib.Overlay

/-!
# The bind points of a table group

A group keeps the bind points that were set in memory of its own, and a get is to copy them into the buffer
of the caller. What `memcpy` is given is not the two buffers but where the pointers to them are kept.

* `bindListRoundTrip_iff` — when a get gives what a create or a set stored.
-/

namespace OpxSai

variable {env : AclEnv} {db : AclDb} {gid : Oid} {c : Nat} {stored : List Int}

/-! ## The get -/

/-- Four bytes of memory: an element of a list, or half of a pointer. -/
inductive BindWord where
  | s32 (elem : Int)
  | lo (ptr : Nat)
  | hi (ptr : Nat)
deriving DecidableEq

/-- Memory, by words of four bytes. -/
abbrev BindMemory := Nat → BindWord

def memcpyWords (dst src n : Nat) (m : BindMemory) : BindMemory :=
  fun a => if dst ≤ a ∧ a < dst + n then m (src + (a - dst)) else m a

/-- `sai_attribute_t` of a get: of a list, the count and where its pointer is kept. -/
inductive AclGroupGetAttr where
  | stage (s32 : Int)
  | bindPointTypeList (count list_at : Nat)
  | type (s32 : Int)
  | other (id : Nat)
deriving DecidableEq

/-- The attribute as `sai_attribute_validate` sees it. -/
def AclGroupGetAttr.toAttr : AclGroupGetAttr → AclGroupAttr
  | .stage s32 => .stage s32
  | .bindPointTypeList _ _ => .bindPointTypeList []
  | .type s32 => .type s32
  | .other id => .other id

/-- `sai_acl_table_group_attr_get`, where the pointer to the list of the group is kept at `node_at`. -/
def aclTableGroupAttrGet (group : AclTableGroup) (node_at : Nat) :
    List AclGroupGetAttr → BindMemory → Status × List AclGroupGetAttr × BindMemory
  | [], m => (.success, [], m)
  | attr :: attr_list, m =>
    let next attr m :=
      let x := aclTableGroupAttrGet group node_at attr_list m
      (x.1, attr :: x.2.1, x.2.2)
    match attr with
    | .stage _ => next (.stage group.acl_stage) m
    | .type _ => next (.type group.acl_group_type) m
    | .bindPointTypeList count list_at =>
      let attr := .bindPointTypeList group.acl_bind_list.length list_at
      if count < group.acl_bind_list.length then (.bufferOverflow, attr :: attr_list, m)
      else next attr (memcpyWords list_at node_at group.acl_bind_list.length m)
    | .other _ => (.unknownAttribute 0, attr :: attr_list, m)

/-- `sai_acl_table_group_attribute_get` -/
def aclTableGroupAttributeGet (env : AclEnv) (gid : Oid) (node_at : Nat) (attr_list : List AclGroupGetAttr)
    (db : AclDb) (m : BindMemory) : Status × List AclGroupGetAttr × BindMemory :=
  match db.group_tree gid with
  | none => (.invalidObjectId, attr_list, m)
  | some group =>
    let x := aclTableGroupParseUpdateAttributes env group (attr_list.map AclGroupGetAttr.toAttr) .get
    if x.1 ≠ .success then (x.1, attr_list, m) else aclTableGroupAttrGet x.2 node_at attr_list m

/-! ## The round trip -/

/-- The memory of a get: the list of the group at `p`, the buffer of the caller at `b`, and where their
pointers are kept. -/
structure BindListLaid (stored : List Int) (c node_at list_at p b : Nat) (m : BindMemory) : Prop where
  node : m node_at = .lo p ∧ m (node_at + 1) = .hi p
  caller : m list_at = .lo b ∧ m (list_at + 1) = .hi b
  elems : ∀ i (h : i < stored.length), m (p + i) = .s32 stored[i]
  apart : [(node_at, 2), (list_at, 2), (p, stored.length), (b, c)].Pairwise
    fun r q => r.1 + r.2 ≤ q.1 ∨ q.1 + q.2 ≤ r.1

/-- **A get gives the list**: in the buffer of the caller and nowhere else, or the count that it needs. -/
def BindListGetExact (env : AclEnv) (gid : Oid) (db : AclDb) (stored : List Int) (c : Nat) : Prop :=
  ∀ node_at list_at p b m, BindListLaid stored c node_at list_at p b m →
    let x := aclTableGroupAttributeGet env gid node_at [.bindPointTypeList c list_at] db m
    if c < stored.length then x = (.bufferOverflow, [.bindPointTypeList stored.length list_at], m)
    else x.1 = .success ∧ x.2.1 = [.bindPointTypeList stored.length list_at] ∧
      (∀ i (h : i < stored.length), x.2.2 (b + i) = .s32 stored[i]) ∧
      ∀ a, ¬(b ≤ a ∧ a < b + stored.length) → x.2.2 a = m a

inductive BindListOp where
  | create (attr_list : List AclGroupAttr)
  | set (gid : Oid) (s32list : List Int)

namespace BindListOp

def run (env : AclEnv) (db : AclDb) : BindListOp → Status × AclDb
  | create attr_list => aclTableGroupCreate env attr_list db
  | set gid s32list => aclTableGroupAttributeSet env gid (.bindPointTypeList s32list) db

def target (env : AclEnv) (db : AclDb) : BindListOp → Option Oid
  | create _ => aclTableGroupIdCreate env db
  | set gid _ => some gid

def list : BindListOp → List Int
  | create attr_list => (attr_list.reverse.findSome? fun
      | .bindPointTypeList s32list => some s32list
      | _ => none).getD []
  | set _ s32list => s32list

end BindListOp

variable {op : BindListOp}

/-- **The round trip**: what the call stored is what a get gives. -/
def BindListRoundTrip (env : AclEnv) (op : BindListOp) (db : AclDb) (c : Nat) : Prop :=
  ∃ gid, op.target env db = some gid ∧ BindListGetExact env gid (op.run env db).2 op.list c

theorem aclTableGroupAttrsSet_list : ∀ (attr_list : List AclGroupAttr) (idx : Nat) (group : AclTableGroup),
    (aclTableGroupAttrsSet env idx attr_list group).1 = .success →
    (aclTableGroupAttrsSet env idx attr_list group).2.acl_bind_list =
      (attr_list.reverse.findSome? fun
        | .bindPointTypeList s32list => some s32list
        | _ => none).getD group.acl_bind_list
  | [], _, _, _ => rfl
  | attr :: attr_list, idx, group, hok => by
    simp only [aclTableGroupAttrsSet] at hok ⊢
    split at hok
    next hbad => exact absurd hok (getIndexedRetVal_ne_success hbad)
    rename_i hset
    rw [if_neg hset, aclTableGroupAttrsSet_list attr_list _ _ hok, lastSome_cons]
    congr 1
    cases attr with
    | bindPointTypeList s32list =>
      simp only [aclTableGroupAttrSet] at hset ⊢
      split
      next hfull =>
        rw [if_pos hfull] at hset
        exact absurd (nofun) hset
      · rfl
    | _ => rfl

theorem bindListOp_stored (hok : (op.run env db).1 = .success) :
    ∃ gid group, op.target env db = some gid ∧ (op.run env db).2.group_tree gid = some group ∧
      group.acl_bind_list = op.list := by
  cases op with
  | create attr_list =>
    simp only [BindListOp.run, BindListOp.target, BindListOp.list, aclTableGroupCreate] at hok ⊢
    split at hok
    · cases hok
    rename_i hnode
    rw [if_neg hnode]
    split at hok
    next hbad => exact absurd hok hbad
    rename_i hparsed
    rw [if_neg hparsed]
    cases hid : aclTableGroupIdCreate env db with
    | none =>
      rw [hid] at hok
      cases hok
    | some gid =>
      rw [hid] at hok
      simp only at hok ⊢
      split at hok
      · cases hok
      rename_i htree
      rw [if_neg htree]
      refine ⟨gid, _, rfl, if_pos rfl, ?_⟩
      have hparsed := not_not.mp hparsed
      simp only [aclTableGroupParseUpdateAttributes] at hparsed ⊢
      split at hparsed
      next hbad => exact absurd hparsed hbad
      rename_i hvalid
      rw [if_neg hvalid]
      exact aclTableGroupAttrsSet_list attr_list 0 .zero hparsed
  | set gid s32list =>
    simp only [BindListOp.run, BindListOp.target, BindListOp.list, aclTableGroupAttributeSet] at hok ⊢
    cases hgroup : db.group_tree gid with
    | none =>
      rw [hgroup] at hok
      cases hok
    | some group =>
      rw [hgroup] at hok
      simp only at hok ⊢
      split at hok
      next hbad => exact absurd hok hbad
      rename_i htried
      rw [if_neg htried]
      refine ⟨gid, (aclTableGroupAttrSet env group (.bindPointTypeList s32list)).2, rfl, ?_, ?_⟩
      · exact (if_pos rfl).trans (congrArg _ hgroup)
      · simp only [aclTableGroupAttrSet] at hok ⊢
        split at hok
        · cases hok
        next hroom => rw [if_neg hroom]

theorem bindListGetExact_iff (hget : env.validate_group .get [.bindPointTypeList []] = .success)
    {group : AclTableGroup} (hgroup : db.group_tree gid = some group) :
    BindListGetExact env gid db group.acl_bind_list c ↔
      group.acl_bind_list = [] ∨ c < group.acl_bind_list.length := by
  generalize hstored : group.acl_bind_list = stored
  have hx : ∀ node_at list_at m, aclTableGroupAttributeGet env gid node_at [.bindPointTypeList c list_at] db m =
      if c < stored.length then (.bufferOverflow, [.bindPointTypeList stored.length list_at], m)
      else (.success, [.bindPointTypeList stored.length list_at],
        memcpyWords list_at node_at stored.length m) := by
    intro node_at list_at m
    have hparse : aclTableGroupParseUpdateAttributes env group [.bindPointTypeList []] .get =
        (.success, group) := by
      simp [aclTableGroupParseUpdateAttributes, hget]
    simp [aclTableGroupAttributeGet, hgroup, AclGroupGetAttr.toAttr, hparse, aclTableGroupAttrGet, hstored]
  simp only [BindListGetExact, hx]
  constructor
  · intro h
    by_contra hno
    obtain ⟨hne, hroom⟩ := not_or.mp hno
    have hpos : 0 < stored.length := List.length_pos_iff.mpr hne
    -- the pointer of the caller becomes that of the group
    let m : BindMemory := fun a => match a with
      | 0 => .lo 4
      | 1 => .hi 4
      | 2 => .lo (4 + stored.length)
      | 3 => .hi (4 + stored.length)
      | i + 4 => .s32 (stored.getD i 0)
    have hlaid : BindListLaid stored c 0 2 4 (4 + stored.length) m := by
      refine ⟨⟨rfl, rfl⟩, ⟨rfl, rfl⟩, fun i hi => ?_, ?_⟩
      · rw [Nat.add_comm]
        exact congrArg BindWord.s32 (by simp [hi])
      · simp
        omega
    have hrest := h 0 2 4 _ m hlaid
    rw [if_neg hroom, if_neg hroom] at hrest
    have htwo : memcpyWords 2 0 stored.length m 2 = m 2 := hrest.2.2.2 2 (by omega)
    rw [show memcpyWords 2 0 stored.length m 2 = .lo 4 from if_pos ⟨le_refl 2, by omega⟩] at htwo
    injection htwo with heq
    omega
  · rintro hfits node_at list_at p b m -
    split
    · rfl
    rename_i hroom
    have hnil := hfits.resolve_right hroom
    subst hnil
    refine ⟨rfl, rfl, fun i hi => absurd hi (by simp), fun a _ => if_neg ?_⟩
    simp only [List.length_nil]
    omega

/-- **When a get gives what was stored.** -/
theorem bindListRoundTrip_iff (hok : (op.run env db).1 = .success)
    (hget : env.validate_group .get [.bindPointTypeList []] = .success) :
    BindListRoundTrip env op db c ↔ op.list = [] ∨ c < op.list.length := by
  obtain ⟨gid, group, htarget, hgroup, hlist⟩ := bindListOp_stored hok
  rw [← hlist, ← bindListGetExact_iff hget hgroup, hlist]
  exact ⟨fun ⟨gid', htarget', h⟩ => Option.some.inj (htarget.symm.trans htarget') ▸ h,
    fun h => ⟨gid, htarget, h⟩⟩

def noGroups : AclDb := .initial (fun _ => none) (fun _ => none) (fun _ => false) .empty

theorem bindListRoundTrip_iff_short :
    BindListRoundTrip (.good (fun _ => .bool) []) (.create [.bindPointTypeList [1, 2]]) noGroups 1 ↔
      BindListOp.list (.create [.bindPointTypeList [1, 2]]) = [] ∨
        1 < (BindListOp.list (.create [.bindPointTypeList [1, 2]])).length :=
  bindListRoundTrip_iff rfl rfl

/-- One bind point and a buffer for it. -/
theorem not_bindListRoundTrip :
    ¬ ∀ env op db c, (op.run env db).1 = .success →
      env.validate_group .get [.bindPointTypeList []] = .success → BindListRoundTrip env op db c := by
  intro h
  obtain ⟨gid, htarget, hexact⟩ :=
    h (.good (fun _ => .bool) []) (.create [.bindPointTypeList [1]]) noGroups 1 rfl rfl
  obtain ⟨gid', group, htarget', hgroup, hlist⟩ :=
    @bindListOp_stored (.good (fun _ => .bool) []) noGroups (.create [.bindPointTypeList [1]]) rfl
  cases htarget.symm.trans htarget'
  rw [← hlist, bindListGetExact_iff rfl hgroup, hlist] at hexact
  exact absurd hexact (by decide)

end OpxSai
