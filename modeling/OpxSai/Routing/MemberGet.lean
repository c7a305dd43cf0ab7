import OpxSai.Routing.NextHopGroup

/-!
# Routing — reading a group member

The loop of `sai_fib_next_hop_group_member_attribute_get` counts up the number of attributes in place of
the index. So it answers the first attribute over and over, until the number wraps around to 0.

* `memberGetExact_iff` — when every attribute is answered at its own place, and once.
-/

namespace OpxSai

/-! ## The getter -/

/-- `SAI_NEXT_HOP_GROUP_MEMBER_ATTR_*` -/
inductive MemberAttrId where
  | nextHopGroupId | nextHopId | weight
  | other (id : Nat)
deriving DecidableEq

/-- `sai_attribute_t` of a member to get, its value read as an object id. -/
structure MemberGetAttr where
  id : MemberAttrId
  oid : Oid
deriving DecidableEq

/-- What the loop writes to an attribute: an unknown one stays as it is. -/
def MemberGetAttr.answer (nh_grp_id nh_id : Oid) (attr : MemberGetAttr) : MemberGetAttr :=
  match attr.id with
  | .nextHopGroupId => { attr with oid := nh_grp_id }
  | .nextHopId => { attr with oid := nh_id }
  | _ => attr

theorem neg_toNat_succ {attr_count : BitVec 32} (h : 0 < attr_count) :
    (-attr_count).toNat = (-(attr_count + 1)).toNat + 1 := by
  bv_omega

/-- The loop of `sai_fib_next_hop_group_member_attribute_get`, on the attribute at index 0, with the
indices that it visits. -/
def memberAttrsGet (nh_grp_id nh_id : Oid) (attr_count : BitVec 32) (attr : MemberGetAttr) :
    Status × MemberGetAttr × List Nat :=
  if 0 < attr_count then
    if attr.id = .weight then (.notSupported, attr, [0])
    else
      let x := memberAttrsGet nh_grp_id nh_id (attr_count + 1) (attr.answer nh_grp_id nh_id)
      (x.1, x.2.1, 0 :: x.2.2)
  else (.success, attr, [])
termination_by (-attr_count).toNat
decreasing_by
  have hnext := neg_toNat_succ ‹0 < attr_count›
  omega

/-- `sai_fib_next_hop_group_member_attribute_get`, with the indices that it visits. -/
def nextHopGroupMemberAttributeGet (member_id : Oid) (attr_list : List MemberGetAttr) (s : Fib) :
    Status × List MemberGetAttr × List Nat :=
  match attr_list with
  | [] => (.invalidParameter, [], [])
  | attr :: rest =>
    match nextHopMapGetIdsFromMemberId member_id s with
    | none => (.itemNotFound, attr :: rest, [])
    | some (nh_grp_id, nh_id) =>
      let x := memberAttrsGet nh_grp_id nh_id (BitVec.ofNat 32 (rest.length + 1)) attr
      (x.1, x.2.1 :: rest, x.2.2)

def MemberGetAttr.Known (attr : MemberGetAttr) : Prop := attr.id = .nextHopGroupId ∨ attr.id = .nextHopId

/-- **Every attribute is answered at its own place**: no index is visited twice, and the read succeeds
only with all the answers. -/
structure MemberGetExact (member_id nh_grp_id nh_id : Oid) (attr_list : List MemberGetAttr) (s : Fib) :
    Prop where
  once : (nextHopGroupMemberAttributeGet member_id attr_list s).2.2.Nodup
  answers : (nextHopGroupMemberAttributeGet member_id attr_list s).1 = .success →
    (∀ attr ∈ attr_list, attr.Known) ∧ (nextHopGroupMemberAttributeGet member_id attr_list s).2.1 =
      attr_list.map (MemberGetAttr.answer nh_grp_id nh_id)

/-- **When that is so.** The first attribute is the weight; or there are as many as the number can count,
all of them known and all but the first answered before. -/
def MemberGetFits (nh_grp_id nh_id : Oid) (attr_list : List MemberGetAttr) : Prop :=
  (∃ attr ∈ attr_list.head?, attr.id = .weight) ∨
  attr_list.length + 1 = 2 ^ 32 ∧ (∀ attr ∈ attr_list, attr.Known) ∧
    ∀ attr ∈ attr_list.tail, attr.answer nh_grp_id nh_id = attr

/-! ## The loop -/

variable {nh_grp_id nh_id member_id : Oid} {attr : MemberGetAttr} {attr_list : List MemberGetAttr} {s : Fib}

theorem answer_id : (attr.answer nh_grp_id nh_id).id = attr.id := by
  unfold MemberGetAttr.answer
  split <;> rfl

theorem answer_answer : (attr.answer nh_grp_id nh_id).answer nh_grp_id nh_id = attr.answer nh_grp_id nh_id := by
  obtain ⟨id, oid⟩ := attr
  cases id <;> rfl

/-- The first attribute is answered until the number of attributes is 0 again. -/
theorem memberAttrsGet_wraps (hid : attr.id ≠ .weight) (attr_count : BitVec 32) :
    memberAttrsGet nh_grp_id nh_id attr_count attr =
      (.success, if 0 < attr_count then attr.answer nh_grp_id nh_id else attr,
        List.replicate (-attr_count).toNat 0) := by
  fun_induction memberAttrsGet nh_grp_id nh_id attr_count attr with
  | case1 attr_count attr hpos hweight => exact absurd hweight hid
  | case2 attr_count attr hpos _ x ih =>
    have ih := ih (by rwa [answer_id])
    simp only [x, ih, if_pos hpos, answer_answer, ite_self, neg_toNat_succ hpos, List.replicate_succ]
  | case3 attr_count attr hzero =>
    have hzero : attr_count = 0 := by bv_omega
    simp [hzero]

/-- **When a member is read exactly.** -/
theorem memberGetExact_iff (hlive : nextHopMapGetIdsFromMemberId member_id s = some (nh_grp_id, nh_id))
    (hgiven : attr_list ≠ []) (hcount : attr_list.length < 2 ^ 32) :
    MemberGetExact member_id nh_grp_id nh_id attr_list s ↔ MemberGetFits nh_grp_id nh_id attr_list := by
  obtain ⟨attr, rest, rfl⟩ := List.exists_cons_of_ne_nil hgiven
  rw [List.length_cons] at hcount
  have hnat : (BitVec.ofNat 32 (rest.length + 1)).toNat = rest.length + 1 := Nat.mod_eq_of_lt hcount
  have hpos : 0 < BitVec.ofNat 32 (rest.length + 1) := by
    rw [BitVec.lt_def, hnat]
    exact Nat.succ_pos _
  have hneg : (-BitVec.ofNat 32 (rest.length + 1)).toNat = 2 ^ 32 - (rest.length + 1) := by
    rw [BitVec.toNat_neg, hnat]
    omega
  by_cases hid : attr.id = .weight
  · have hget : nextHopGroupMemberAttributeGet member_id (attr :: rest) s =
        (.notSupported, attr :: rest, [0]) := by
      simp only [nextHopGroupMemberAttributeGet, hlive]
      rw [memberAttrsGet, if_pos hpos, if_pos hid]
    refine iff_of_true ⟨by rw [hget]; simp, fun h => ?_⟩ (.inl ⟨attr, rfl, hid⟩)
    rw [hget] at h
    exact absurd h (by simp)
  · have hget : nextHopGroupMemberAttributeGet member_id (attr :: rest) s =
        (.success, attr.answer nh_grp_id nh_id :: rest, List.replicate (2 ^ 32 - (rest.length + 1)) 0) := by
      simp only [nextHopGroupMemberAttributeGet, hlive, memberAttrsGet_wraps hid, if_pos hpos, hneg]
    have hrest : rest = rest.map (MemberGetAttr.answer nh_grp_id nh_id) ↔
        ∀ attr ∈ rest, attr.answer nh_grp_id nh_id = attr := by
      have hmap := List.map_inj_left (l := rest) (f := MemberGetAttr.answer nh_grp_id nh_id) (g := id)
      rw [List.map_id] at hmap
      exact eq_comm.trans hmap
    constructor
    · rintro ⟨honce, hanswers⟩
      rw [hget, List.nodup_replicate] at honce
      rw [hget] at hanswers
      obtain ⟨hknown, hlist⟩ := hanswers rfl
      rw [List.map_cons] at hlist
      exact .inr ⟨by simp only [List.length_cons]; omega, hknown, hrest.mp (List.cons.inj hlist).2⟩
    · rintro (⟨a, ha, hweight⟩ | ⟨hlength, hknown, htail⟩)
      · obtain rfl : attr = a := by simpa using ha
        exact absurd hweight hid
      · rw [List.length_cons] at hlength
        refine ⟨?_, fun _ => ⟨hknown, ?_⟩⟩
        · rw [hget, List.nodup_replicate]
          omega
        · rw [hget, List.map_cons, ← hrest.mpr htail]

def oneMember : Fib :=
  { Fib.init 4 with sai_map := fun k =>
      if k = memberInfoKey ⟨.nextHopGroupMember, 1⟩ then some [⟨⟨.nextHopGroup, 1⟩, ⟨.nextHop, 1⟩⟩]
      else none }

/-- The weight of a member is not supported. -/
theorem memberGetExact_iff_weight :
    MemberGetExact ⟨.nextHopGroupMember, 1⟩ ⟨.nextHopGroup, 1⟩ ⟨.nextHop, 1⟩ [⟨.weight, .null⟩] oneMember :=
  (memberGetExact_iff rfl (by simp) (by simp)).mpr (.inl ⟨_, rfl, rfl⟩)

/-- **The counterexample.** A group id that is asked for alone is answered `2 ^ 32 - 1` times. -/
theorem not_memberGetExact_groupId :
    ¬ MemberGetExact ⟨.nextHopGroupMember, 1⟩ ⟨.nextHopGroup, 1⟩ ⟨.nextHop, 1⟩
      [⟨.nextHopGroupId, .null⟩] oneMember := by
  rintro ⟨honce, -⟩
  have hlive : nextHopMapGetIdsFromMemberId ⟨.nextHopGroupMember, 1⟩ oneMember =
      some (⟨.nextHopGroup, 1⟩, ⟨.nextHop, 1⟩) := rfl
  simp only [nextHopGroupMemberAttributeGet, hlive] at honce
  rw [memberAttrsGet_wraps (by simp), List.nodup_replicate] at honce
  exact absurd honce (by decide)

end OpxSai
