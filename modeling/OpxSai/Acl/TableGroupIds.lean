import Mathlib.Logic.Relation
import OpxSai.Acl.TablePriority

/-!
# The group ids of ACL tables

A table that is created without a group id gets one that is named after its own id. Ids are taken again,
lowest first, and a group outlives the table that it is named after: a new table may find its group taken.

* `AclTableRuns` — tables, with the creates that made them and the tables that a create named;
* `TableGroupFits` — the condition: the group of the lowest free id has no table;
* `groupsShared_of_run` — the main result.
-/

namespace OpxSai

open AclDb
variable {attrs : List AclTableAttr} {counts : AclTableCounts} {table_idx : Nat}
variable {env : AclTableEnv} {new : AclTableNew}

/-! ## Creates and their links -/

/-- `sai_create_acl_table`, with nothing between its two steps. -/
def aclTableCreateCall (env : AclTableEnv) (attr_list : List AclTableAttr) (db : AclTableDb) :
    Status × AclTableDb :=
  if attr_list = [] then (.invalidParameter, db)
  else
    match aclTableValidateAttributes env attr_list db with
    | .error rc => (rc, db)
    | .ok counts => aclTableCreateLocked env attr_list counts db

/-- The tables. Each create has a number; it is linked with the creates of the tables whose group it was
given. -/
structure AclTableRuns where
  db : AclTableDb
  number : Oid → Nat
  next : Nat
  links : List (Nat × Nat)

inductive AclTableRunOp where
  | create (env : AclTableEnv) (attr_list : List AclTableAttr)
  | delete (env : AclTableEnv) (table_id : Oid)

def groupTables (attr_list : List AclTableAttr) (db : AclTableDb) : List Oid :=
  db.table_keys.filter fun t => decide (.groupId (db.table_info t).table_group_id ∈ attr_list)

def AclTableRuns.record (s : AclTableRuns) (table_id : Oid) (attr_list : List AclTableAttr) (db : AclTableDb) :
    AclTableRuns where
  db := db
  number := fun t => if t = table_id then s.next else s.number t
  next := s.next + 1
  links := (groupTables attr_list s.db).map (fun t => (s.next, s.number t)) ++ s.links

def aclTableRunStep (op : AclTableRunOp) (s : AclTableRuns) : AclTableRuns :=
  match op with
  | .create env attr_list =>
    let db := (aclTableCreateCall env attr_list s.db).2
    match (aclTableIdAlloc s.db).map fun table_idx => uoidCreate .aclTable (table_idx + 1) with
    | none => { s with db := db }
    | some table_id =>
      if (s.db.acl.table_tree table_id).isNone ∧ (db.acl.table_tree table_id).isSome then
        s.record table_id attr_list db
      else { s with db := db }
  | .delete env table_id => { s with db := (aclTableDelete env table_id s.db).2 }

def AclTableRuns.initial (table_id_max : Nat) : AclTableRuns := ⟨.initial table_id_max, fun _ => 0, 0, []⟩

/-- **Groups are shared by those who asked**: live tables are of different creates, and two of one group are
linked by a chain of creates, each of which was given the group of the one before. -/
structure GroupsShared (s : AclTableRuns) : Prop where
  apart : ∀ t t', (s.db.acl.table_tree t).isSome → (s.db.acl.table_tree t').isSome →
    s.number t = s.number t' → t = t'
  shared : ∀ t t', (s.db.acl.table_tree t).isSome → (s.db.acl.table_tree t').isSome →
    (s.db.table_info t).table_group_id = (s.db.table_info t').table_group_id →
    Relation.EqvGen (fun a b => (a, b) ∈ s.links) (s.number t) (s.number t')

/-- **The condition.** A table that is created without a group finds no table in the group of the lowest
free id. -/
def TableGroupFits (op : AclTableRunOp) (s : AclTableRuns) : Prop :=
  match op with
  | .create _ attr_list => (∀ oid, .groupId oid ∉ attr_list) → ∀ table_idx, aclTableIdAlloc s.db = some table_idx →
      ∀ t, (s.db.acl.table_tree t).isSome →
        (s.db.table_info t).table_group_id ≠ uoidCreate .aclTableGroup (table_idx + 1)
  | .delete .. => True

/-! ## What a create makes -/

theorem aclTablePopulateAttrs_group {n index : Nat}
    {new'} (h : aclTablePopulateAttrs env n index attrs new = .ok new') :
    (new'.virtual_group_create = true → .groupId new'.info.table_group_id ∈ attrs ∨
      (new.virtual_group_create = true ∧ new'.info.table_group_id = new.info.table_group_id)) ∧
    (new'.virtual_group_create = false → new.virtual_group_create = false ∧ ∀ oid, .groupId oid ∉ attrs) := by
  induction attrs generalizing index new with
  | nil =>
    cases h
    exact ⟨fun hv => .inr ⟨hv, rfl⟩, fun hv => ⟨hv, fun _ => List.not_mem_nil⟩⟩
  | cons attr attrs ih =>
    simp only [aclTablePopulateAttrs] at h
    split at h
    · cases h
    rename_i mid hmid
    obtain ⟨hgiven, hnone⟩ := ih h
    -- an attribute that is not a group
    have hother : mid.virtual_group_create = new.virtual_group_create →
        mid.info.table_group_id = new.info.table_group_id → (∀ oid, attr ≠ .groupId oid) →
        (new'.virtual_group_create = true → .groupId new'.info.table_group_id ∈ attr :: attrs ∨
          (new.virtual_group_create = true ∧ new'.info.table_group_id = new.info.table_group_id)) ∧
        (new'.virtual_group_create = false →
          new.virtual_group_create = false ∧ ∀ oid, .groupId oid ∉ attr :: attrs) := by
      intro hvirtual hgroup hattr
      refine ⟨fun hv => ?_, fun hv => ?_⟩
      · rcases hgiven hv with hmem | ⟨hvmid, hsame⟩
        · exact .inl (List.mem_cons_of_mem _ hmem)
        · exact .inr ⟨hvirtual ▸ hvmid, hsame.trans hgroup⟩
      · obtain ⟨hvmid, hno⟩ := hnone hv
        refine ⟨hvirtual ▸ hvmid, fun oid hmem => ?_⟩
        rcases List.mem_cons.mp hmem with heq | hmem
        · exact hattr oid heq.symm
        · exact hno oid hmem
    cases attr with
    | groupId oid =>
      cases hmid
      refine ⟨fun hv => .inl ?_, fun hv => ?_⟩
      · rcases hgiven hv with hmem | ⟨-, hsame⟩
        · exact List.mem_cons_of_mem _ hmem
        · rw [hsame]
          exact List.mem_cons_self
      · cases (hnone hv).1
    | udfField k oid =>
      simp only [aclTablePopulateAttr] at hmid
      split at hmid
      · cases hmid
      split at hmid
      · cases hmid
      cases hmid
      exact hother rfl rfl (by simp)
    | stage _ | priority _ | size _ | actionList _ | field _ | unknown _ | outOfRange _ =>
      cases hmid
      exact hother rfl rfl (by simp)

/-- **What is made** has the group that it was given, or that of the lowest free id. -/
theorem aclTableMake_group {db} (h : aclTableMake env attrs counts db = .ok (table_idx, new)) :
    aclTableIdAlloc db = some table_idx ∧ (.groupId new.info.table_group_id ∈ attrs ∨
      ((∀ oid, .groupId oid ∉ attrs) ∧ new.info.table_group_id = uoidCreate .aclTableGroup (table_idx + 1))) := by
  unfold aclTableMake at h
  split at h
  · cases h
  rename_i made hmade
  dsimp only at h
  split at h
  · cases h
  split at h
  · cases h
  rename_i idx halloc
  split at h
  · cases h
  rename_i new' hid
  obtain ⟨rfl, rfl⟩ : idx = table_idx ∧ new' = new := by simpa using Except.ok.inj h
  refine ⟨halloc, ?_⟩
  unfold aclTablePopulate at hmade
  split at hmade
  · cases hmade
  split at hmade
  · cases hmade
  obtain ⟨hgiven, hnone⟩ := aclTablePopulateAttrs_group hmade
  -- the NPU takes the table as it is
  have hinfo : new'.info.table_group_id = if (!made.virtual_group_create) = true then
      uoidCreate .aclTableGroup (idx + 1) else made.info.table_group_id := by
    unfold aclTableIdCreate at hid
    dsimp only at hid
    split at hid <;> rename_i hv <;> split at hid
    · split at hid
      · cases hid
      · cases hid
        exact (if_pos hv).symm
    · cases hid
      exact (if_pos hv).symm
    · split at hid
      · cases hid
      · cases hid
        exact (if_neg hv).symm
    · cases hid
      exact (if_neg hv).symm
  rw [hinfo]
  cases hv : made.virtual_group_create with
  | true => exact .inl ((hgiven hv).resolve_right fun hzero => nomatch hzero.1)
  | false => exact .inr ⟨(hnone hv).2, rfl⟩

/-! ## The invariant -/

/-- Groups are shared by those who asked; the walk comes to every table, and numbers are used up. -/
structure GroupsInv (s : AclTableRuns) : Prop extends GroupsShared s where
  keys : TableKeysFit s.db
  used : ∀ t, (s.db.acl.table_tree t).isSome → s.number t < s.next

section Steps

variable {s : AclTableRuns}

theorem GroupsInv.fewer (h : GroupsInv s) {db'} (hinfo : db'.table_info = s.db.table_info)
    (hkeys : TableKeysFit db')
    (hlive : ∀ t, (db'.acl.table_tree t).isSome → (s.db.acl.table_tree t).isSome) : GroupsInv { s with db := db' } where
  apart := fun t t' ht ht' => h.apart t t' (hlive t ht) (hlive t' ht')
  shared := fun t t' ht ht' => by
    dsimp only
    rw [hinfo]
    exact h.shared t t' (hlive t ht) (hlive t' ht')
  keys := hkeys
  used := fun t ht => h.used t (hlive t ht)

theorem GroupsInv.create (h : GroupsInv s) {attr_list}
    (hfits : TableGroupFits (.create env attr_list) s)
    (hmake : aclTableMake env attr_list counts s.db = .ok (table_idx, new)) :
    GroupsInv (s.record (uoidCreate .aclTable (table_idx + 1)) attr_list (s.db.addTable table_idx new)) := by
  obtain ⟨halloc, hgroup⟩ := aclTableMake_group hmake
  generalize hid : uoidCreate _ _ = id
  have hlive : ∀ t, t ≠ id → ((s.db.addTable table_idx new).acl.table_tree t).isSome →
      (s.db.acl.table_tree t).isSome := by
    intro t hne ht
    simp only [AclTableDb.addTable, hid] at ht
    rwa [if_neg hne] at ht
  have hinfo : ∀ t, ((s.db.addTable table_idx new).table_info t) = if t = id then new.info else s.db.table_info t := by
    intro t
    simp only [AclTableDb.addTable, hid]
  have hold : ∀ {a b}, Relation.EqvGen (fun a b => (a, b) ∈ s.links) a b → Relation.EqvGen
      (fun a b => (a, b) ∈ (s.record id attr_list (s.db.addTable table_idx new)).links) a b :=
    fun hab => hab.mono fun _ _ hlink => List.mem_append_right _ hlink
  -- a table of the group that the new one gets was named
  have hlink : ∀ t, t ≠ id → (s.db.acl.table_tree t).isSome →
      (s.db.table_info t).table_group_id = new.info.table_group_id →
      (s.next, s.number t) ∈ (s.record id attr_list (s.db.addTable table_idx new)).links := by
    intro t _ ht hsame
    refine List.mem_append_left _ (List.mem_map.mpr ⟨t, List.mem_filter.mpr ⟨h.keys t ht, ?_⟩, rfl⟩)
    rcases hgroup with hmem | ⟨hnone, hown⟩
    · rw [hsame]
      exact decide_eq_true hmem
    · exact absurd (hsame.trans hown) (hfits hnone table_idx halloc t ht)
  have hnumber : ∀ t, (s.record id attr_list (s.db.addTable table_idx new)).number t =
      if t = id then s.next else s.number t := fun _ => rfl
  refine ⟨⟨fun t t' ht ht' heq => ?_, fun t t' ht ht' hsame => ?_⟩, fun t ht => ?_, fun t ht => ?_⟩
  · rw [hnumber, hnumber] at heq
    by_cases ht₀ : t = id <;> by_cases ht₁ : t' = id
    · rw [ht₀, ht₁]
    · rw [if_pos ht₀, if_neg ht₁] at heq
      exact absurd heq.symm (h.used t' (hlive t' ht₁ ht')).ne
    · rw [if_neg ht₀, if_pos ht₁] at heq
      exact absurd heq (h.used t (hlive t ht₀ ht)).ne
    · rw [if_neg ht₀, if_neg ht₁] at heq
      exact h.apart t t' (hlive t ht₀ ht) (hlive t' ht₁ ht') heq
  · change ((s.db.addTable table_idx new).table_info t).table_group_id =
      ((s.db.addTable table_idx new).table_info t').table_group_id at hsame
    rw [hinfo, hinfo] at hsame
    rw [hnumber, hnumber]
    by_cases ht₀ : t = id <;> by_cases ht₁ : t' = id
    · rw [ht₀, ht₁]
      exact .refl _
    · rw [if_pos ht₀, if_neg ht₁] at hsame ⊢
      exact .rel _ _ (hlink t' ht₁ (hlive t' ht₁ ht') hsame.symm)
    · rw [if_neg ht₀, if_pos ht₁] at hsame ⊢
      exact .symm _ _ (.rel _ _ (hlink t ht₀ (hlive t ht₀ ht) hsame))
    · rw [if_neg ht₀, if_neg ht₁] at hsame ⊢
      exact hold (h.shared t t' (hlive t ht₀ ht) (hlive t' ht₁ ht') hsame)
  · show t ∈ s.db.table_keys ++ [uoidCreate .aclTable (table_idx + 1)]
    rw [hid]
    by_cases ht₀ : t = id
    · exact List.mem_append_right _ (List.mem_singleton.mpr ht₀)
    · exact List.mem_append_left _ (h.keys t (hlive t ht₀ ht))
  · rw [hnumber]
    show _ < s.next + 1
    split
    · exact Nat.lt_succ_self _
    next hne => exact Nat.lt_succ_of_lt (h.used t (hlive t hne ht))

theorem GroupsInv.step (h : GroupsInv s) {op} (hfits : TableGroupFits op s) :
    GroupsInv (aclTableRunStep op s) := by
  cases op with
  | delete env table_id =>
    refine h.fewer ?_ (h.keys.step (.delete env table_id)) fun t ht => ?_
    · rcases aclTableDelete_cases env _ _ with heq | ⟨table, table_in_use, -, -, -, heq⟩ <;> rw [heq]
      rfl
    · rcases aclTableDelete_cases env _ _ with heq | ⟨table, table_in_use, -, -, -, heq⟩
      · rwa [heq] at ht
      rw [heq] at ht
      simp only [aclTableRemove] at ht
      split at ht
      · cases ht
      · exact ht
  | create env attr_list =>
    -- the call leaves the tables, or makes one
    have hcall : (aclTableCreateCall env attr_list s.db).2 = s.db ∨ ∃ counts table_idx new,
        aclTableMake env attr_list counts s.db = .ok (table_idx, new) ∧
        s.db.acl.table_tree (uoidCreate .aclTable (table_idx + 1)) = none ∧
        (aclTableCreateCall env attr_list s.db).2 = s.db.addTable table_idx new := by
      unfold aclTableCreateCall
      split
      · exact .inl rfl
      split
      · exact .inl rfl
      rename_i counts hvalid
      rcases aclTableCreateLocked_cases env _ _ _ with
        heq | ⟨table_idx, new, -, -, hmake, hnone, heq⟩
      · exact .inl heq
      · exact .inr ⟨counts, table_idx, new, hmake, hnone, congrArg Prod.snd heq⟩
    simp only [aclTableRunStep]
    rcases hcall with heq | ⟨counts, table_idx, new, hmake, hnone, heq⟩
    · rw [heq]
      split
      · exact h
      split
      next hboth =>
        rw [Option.isNone_iff_eq_none.mp hboth.1] at hboth
        cases hboth.2
      · exact h
    · rw [heq, (aclTableMake_group hmake).1, Option.map_some]
      dsimp only
      rw [hnone, if_pos ⟨rfl, by simp [AclTableDb.addTable]⟩]
      exact h.create hfits hmake

end Steps

/-- **Groups are shared by those who asked**, in every run in which a table without a group finds its own
free. -/
theorem groupsShared_of_run (table_id_max : Nat) {s : AclTableRuns}
    (hrun : Run aclTableRunStep TableGroupFits (.initial table_id_max) s) : GroupsShared s := by
  refine (hrun.induct (P := GroupsInv) (fun op _ h hfits => h.step hfits) ?_).toGroupsShared
  exact ⟨⟨nofun, nofun⟩, nofun, nofun⟩

def twoInGroup : List AclTableRunOp :=
  [.create .good (ingressTable 10), .create .good (.groupId (uoidCreate .aclTableGroup 1) :: ingressTable 20)]

theorem groupsShared_of_run_two :
    GroupsShared (twoInGroup.foldl (fun s op => aclTableRunStep op s) (.initial 2)) := by
  have hfirst : Run aclTableRunStep TableGroupFits (.initial 2) _ :=
    .one (.create .good (ingressTable 10)) (by exact fun _ _ _ _ ht => nomatch ht)
  have hsecond := hfirst.snoc (.create .good (.groupId (uoidCreate .aclTableGroup 1) :: ingressTable 20))
    (by exact fun hnone => absurd List.mem_cons_self (hnone (uoidCreate .aclTableGroup 1)))
  exact groupsShared_of_run 2 hsecond

/-- The first of the two is deleted, and a new table without a group gets its id, and the group with it. -/
theorem not_groupsShared : ¬ ∀ (table_id_max : Nat) (s : AclTableRuns),
    Run aclTableRunStep (fun _ _ => True) (.initial table_id_max) s → GroupsShared s := by
  intro h
  have hrun : ∀ (ops : List AclTableRunOp) (s : AclTableRuns),
      Run aclTableRunStep (fun _ _ => True) (.initial 2) s →
        Run aclTableRunStep (fun _ _ => True) (.initial 2) (ops.foldl (fun s op => aclTableRunStep op s) s) := by
    intro ops
    induction ops with
    | nil => exact fun s hs => hs
    | cons op ops ih => exact fun s hs => ih _ (hs.snoc op trivial)
  have hshared := (h 2 _ (hrun (twoInGroup ++ [.delete .good (uoidCreate .aclTable 1),
    .create .good (ingressTable 10)]) _ (.nil _))).shared (uoidCreate .aclTable 1) (uoidCreate .aclTable 2)
    (by decide) (by decide) (by decide)
  -- the third create is linked with none
  have halone : ∀ {links : List (Nat × Nat)} {a b}, links = [(1, 0)] →
      Relation.EqvGen (fun a b => (a, b) ∈ links) a b → (a = 2 ↔ b = 2) := by
    intro links a b hlinks hab
    induction hab with
    | rel a b hlink =>
      rw [hlinks] at hlink
      obtain ⟨rfl, rfl⟩ : a = 1 ∧ b = 0 := by simpa using hlink
      decide
    | refl => exact Iff.rfl
    | symm _ _ _ ih => exact ih.symm
    | trans _ _ _ _ _ ih ih' => exact ih.trans ih'
  have hsame := halone (by decide) hshared
  revert hsame
  decide

end OpxSai
