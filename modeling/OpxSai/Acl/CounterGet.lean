import OpxSai.Common.Object

/-!
# Reading an ACL counter

`sai_acl_cntr_get_value` fetches as many values as the list of attributes names kinds of counts, and the
slot that an entry is read from follows that number. So a counter of both kinds that is asked for one of
them is not read by its kind.

* `cntrGetExact_iff` — when every entry has the value of its own attribute.
-/

variable {npu : AclCounter → Nat → Status × (Nat → Nat)} {counter : AclCounter}
  {attr_list : List AclCntrEntry}

namespace OpxSai

/-! ## Counters and their attributes -/

inductive AclCounterType where
  | bytes | packets | bytesPackets
deriving DecidableEq

/-- What the read looks at of `sai_acl_counter_t`. -/
structure AclCounter where
  counter_id : Oid
  table_id : Oid
  counter_type : AclCounterType
deriving DecidableEq

/-- `sai_acl_counter_attr_t`; `other` is out of the range of `sai_acl_cntr_valid_attr_range`. -/
inductive AclCntrAttrId where
  | tableId | enablePacketCount | enableByteCount | packets | bytes
  | other (id : Nat)
deriving DecidableEq

inductive AclCntrValue where
  | oid (oid : Oid) | booldata (b : Bool) | u64 (n : Nat)
deriving DecidableEq

structure AclCntrEntry where
  id : AclCntrAttrId
  value : AclCntrValue
deriving DecidableEq

def AclCounter.supports (counter : AclCounter) : AclCntrAttrId → Bool
  | .other _ => false
  | .packets => counter.counter_type ≠ .bytes
  | .bytes => counter.counter_type ≠ .packets
  | _ => true

/-- `sai_acl_cntr_find_num_counters` -/
def aclCntrFindNumCounters (attr_list : List AclCntrEntry) : Nat :=
  let packet_count := attr_list.any (·.id = .packets)
  let byte_count := attr_list.any (·.id = .bytes)
  if packet_count && byte_count then 2 else if packet_count || byte_count then 1 else 0

/-- What the loop of `sai_acl_cntr_util_set_attr_count_value` writes to an entry, if anything. -/
def aclCntrValue (counter : AclCounter) (num_counters : Nat) (counter_value : Nat → Nat) :
    AclCntrAttrId → Option AclCntrValue
  | .bytes => if num_counters = 2 ∨ num_counters = 1 then some (.u64 (counter_value 0)) else none
  | .packets =>
    if num_counters = 2 then some (.u64 (counter_value 1))
    else if num_counters = 1 then some (.u64 (counter_value 0)) else none
  | .enablePacketCount =>
    some (.booldata (counter.counter_type = .bytesPackets ∨ counter.counter_type ≠ .bytes))
  | .enableByteCount =>
    some (.booldata (counter.counter_type = .bytesPackets ∨ counter.counter_type ≠ .packets))
  | .tableId => some (.oid counter.table_id)
  | .other _ => none

def AclCounter.fill (counter : AclCounter) (num_counters : Nat) (counter_value : Nat → Nat)
    (e : AclCntrEntry) : AclCntrEntry :=
  { e with value := (aclCntrValue counter num_counters counter_value e.id).getD e.value }

/-- The loop of `sai_acl_cntr_util_set_attr_count_value`, with `valid_attr`. -/
def aclCntrUtilSetAttrCountValue (counter : AclCounter) (num_counters : Nat)
    (counter_value : Nat → Nat) : Nat → Bool → List AclCntrEntry → Status × List AclCntrEntry
  | _, valid_attr, [] => (if valid_attr then .success else .mandatoryAttributeMissing, [])
  | attribute_count, valid_attr, e :: attr_list =>
    if counter.supports e.id = false then
      (getIndexedRetVal (.invalidAttribute 0) attribute_count, e :: attr_list)
    else
      let x := aclCntrUtilSetAttrCountValue counter num_counters counter_value (attribute_count + 1)
        (valid_attr || (aclCntrValue counter num_counters counter_value e.id).isSome) attr_list
      (x.1, counter.fill num_counters counter_value e :: x.2)

/-- `sai_acl_cntr_get_value`; where nothing is fetched, no value is read. -/
def aclCntrGetValue (npu : AclCounter → Nat → Status × (Nat → Nat)) (counter : AclCounter)
    (attr_list : List AclCntrEntry) : Status × List AclCntrEntry :=
  let fetch_counter := aclCntrFindNumCounters attr_list
  if fetch_counter ≠ 0 ∧ (npu counter fetch_counter).1 ≠ .success then
    ((npu counter fetch_counter).1, attr_list)
  else
    aclCntrUtilSetAttrCountValue counter fetch_counter (npu counter fetch_counter).2 0 false attr_list

/-- `get_acl_cntr`: two values are the bytes and the packets, and the one value of a counter of one kind
is its count. -/
structure CntrNpu (npu : AclCounter → Nat → Status × (Nat → Nat)) (bytes packets : AclCounter → Nat) :
    Prop where
  ok : ∀ c n, (npu c n).1 = .success
  both : ∀ c, (npu c 2).2 0 = bytes c ∧ (npu c 2).2 1 = packets c
  bytes : ∀ c, c.counter_type = .bytes → (npu c 1).2 0 = bytes c
  packets : ∀ c, c.counter_type = .packets → (npu c 1).2 0 = packets c

/-- **Every entry has the value of its own attribute**, and the read succeeds if the counter has them
all. -/
def CntrGetExact (npu : AclCounter → Nat → Status × (Nat → Nat)) (bytes packets : AclCounter → Nat)
    (counter : AclCounter) (attr_list : List AclCntrEntry) : Prop :=
  let x := aclCntrGetValue npu counter attr_list
  (x.1 = .success ↔ ∀ e ∈ attr_list, counter.supports e.id = true) ∧
  (x.1 = .success → x.2 = attr_list.map
    (counter.fill 2 fun i => if i = 0 then bytes counter else packets counter))

/-- **When that is so.** A counter of both kinds is asked for both or for neither, or the one value that
the NPU has then is the count that is asked for; or the counter does not have an attribute of the list. -/
def CntrGetFits (npu : AclCounter → Nat → Status × (Nat → Nat)) (bytes packets : AclCounter → Nat)
    (counter : AclCounter) (attr_list : List AclCntrEntry) : Prop :=
  counter.counter_type = .bytesPackets → aclCntrFindNumCounters attr_list = 1 →
    (∀ e ∈ attr_list, counter.supports e.id = true) → ∀ e ∈ attr_list,
      (e.id = .bytes → (npu counter 1).2 0 = bytes counter) ∧
      (e.id = .packets → (npu counter 1).2 0 = packets counter)

/-! ## The loop -/

section Loop

variable (num_counters : Nat) (counter_value : Nat → Nat)

theorem aclCntrUtilSetAttrCountValue_refused : ∀ (i : Nat) (valid_attr : Bool) (attr_list : List AclCntrEntry),
    (∃ e ∈ attr_list, counter.supports e.id = false) →
    (aclCntrUtilSetAttrCountValue counter num_counters counter_value i valid_attr attr_list).1 ≠ .success
  | _, _, [], h => by simp at h
  | i, valid_attr, e :: attr_list, h => by
    rw [aclCntrUtilSetAttrCountValue]
    split
    · simp [getIndexedRetVal]
    rename_i hyes
    refine aclCntrUtilSetAttrCountValue_refused _ _ _ ?_
    obtain ⟨e', hmem, hno⟩ := h
    rcases List.mem_cons.mp hmem with rfl | hmem
    · exact absurd hno hyes
    · exact ⟨e', hmem, hno⟩

theorem aclCntrUtilSetAttrCountValue_taken : ∀ (i : Nat) (valid_attr : Bool) (attr_list : List AclCntrEntry),
    (∀ e ∈ attr_list, counter.supports e.id = true) →
    (∀ e ∈ attr_list, (aclCntrValue counter num_counters counter_value e.id).isSome = true) →
    aclCntrUtilSetAttrCountValue counter num_counters counter_value i valid_attr attr_list =
      (if valid_attr = true ∨ attr_list ≠ [] then .success else .mandatoryAttributeMissing,
        attr_list.map (counter.fill num_counters counter_value))
  | _, _, [], _, _ => by simp [aclCntrUtilSetAttrCountValue]
  | i, valid_attr, e :: attr_list, hall, hsome => by
    have ih := aclCntrUtilSetAttrCountValue_taken (i + 1) true attr_list
      (fun e he => hall e (List.mem_cons_of_mem _ he)) fun e he => hsome e (List.mem_cons_of_mem _ he)
    simp only [aclCntrUtilSetAttrCountValue, hall e List.mem_cons_self, hsome e List.mem_cons_self,
      Bool.or_true, ih]
    simp

end Loop

/-- A list that names a count fetches one or two values, and two only if it names both. -/
theorem aclCntrFindNumCounters_cases (attr_list : List AclCntrEntry) :
    (aclCntrFindNumCounters attr_list = 0 ∧ ∀ e ∈ attr_list, e.id ≠ .bytes ∧ e.id ≠ .packets) ∨
    aclCntrFindNumCounters attr_list = 1 ∨ aclCntrFindNumCounters attr_list = 2 := by
  unfold aclCntrFindNumCounters
  cases hpackets : attr_list.any (·.id = .packets) <;> cases hbytes : attr_list.any (·.id = .bytes) <;>
    simp_all

/-- What is read into an entry is what it is to have, unless one value is fetched that is not its own. -/
theorem fill_eq_iff {bytes packets : AclCounter → Nat} (hnpu : CntrNpu npu bytes packets) {n : Nat}
    (hn : (n = 0 ∧ ∀ e ∈ attr_list, e.id ≠ .bytes ∧ e.id ≠ .packets) ∨ n = 1 ∨ n = 2)
    {e : AclCntrEntry} (he : e ∈ attr_list) :
    counter.fill n (npu counter n).2 e =
      counter.fill 2 (fun i => if i = 0 then bytes counter else packets counter) e ↔
    (n = 1 → (e.id = .bytes → (npu counter 1).2 0 = bytes counter) ∧
      (e.id = .packets → (npu counter 1).2 0 = packets counter)) := by
  obtain ⟨hbytes, hpackets⟩ := hnpu.both counter
  obtain ⟨id, value⟩ := e
  rcases hn with ⟨rfl, hnone⟩ | rfl | rfl
  · obtain ⟨hne, hne'⟩ := hnone _ he
    cases id <;> simp_all [AclCounter.fill, aclCntrValue]
  · cases id <;> simp [AclCounter.fill, aclCntrValue]
  · cases id <;> simp [AclCounter.fill, aclCntrValue, hbytes, hpackets]

/-- **When a counter is read exactly.** -/
theorem cntrGetExact_iff {bytes packets : AclCounter → Nat} (hnpu : CntrNpu npu bytes packets)
    (hgiven : attr_list ≠ []) :
    CntrGetExact npu bytes packets counter attr_list ↔ CntrGetFits npu bytes packets counter attr_list := by
  have hn := aclCntrFindNumCounters_cases attr_list
  rw [CntrGetExact, aclCntrGetValue, if_neg fun h => h.2 (hnpu.ok _ _), CntrGetFits]
  generalize aclCntrFindNumCounters _ = n at hn ⊢
  by_cases hall : ∀ e ∈ attr_list, counter.supports e.id = true
  · have hsome : ∀ e ∈ attr_list, (aclCntrValue counter n (npu counter n).2 e.id).isSome = true := by
      rintro ⟨id, value⟩ he
      have hyes := hall _ he
      rcases hn with ⟨rfl, hnone⟩ | rfl | rfl
      · have hne := hnone _ he
        cases id <;> simp_all [aclCntrValue, AclCounter.supports]
      · cases id <;> simp_all [aclCntrValue, AclCounter.supports]
      · cases id <;> simp_all [aclCntrValue, AclCounter.supports]
    rw [aclCntrUtilSetAttrCountValue_taken n _ 0 _ _ hall hsome, if_pos (.inr hgiven)]
    constructor
    · intro hexact _ hone _ e he
      exact (fill_eq_iff hnpu hn he).mp (List.map_inj_left.mp (hexact.2 rfl) e he) hone
    · intro hfits
      refine ⟨iff_of_true rfl hall, fun _ => List.map_inj_left.mpr fun e he => ?_⟩
      refine (fill_eq_iff hnpu hn he).mpr fun hone => ?_
      have hyes := hall e he
      cases hkind : counter.counter_type with
      | bytesPackets => exact hfits hkind hone hall e he
      | bytes =>
        refine ⟨fun _ => hnpu.bytes _ hkind, fun hid => ?_⟩
        simp [hid, AclCounter.supports, hkind] at hyes
      | packets =>
        refine ⟨fun hid => ?_, fun _ => hnpu.packets _ hkind⟩
        simp [hid, AclCounter.supports, hkind] at hyes
  · have hno : ∃ e ∈ attr_list, counter.supports e.id = false := by simpa using hall
    have hrefused := aclCntrUtilSetAttrCountValue_refused n (npu counter n).2 0 false attr_list hno
    exact iff_of_true ⟨iff_of_false hrefused hall, fun hok => absurd hok hrefused⟩
      fun _ _ h => absurd h hall

def oneCounted (c : AclCounter) (n : Nat) : Status × (Nat → Nat) :=
  (.success, fun i => if n = 2 ∧ i = 1 ∨ n = 1 ∧ c.counter_type = .packets then 1 else 64)

theorem cntrNpu_oneCounted : CntrNpu oneCounted (fun _ => 64) fun _ => 1 :=
  ⟨fun _ _ => rfl, fun _ => ⟨rfl, rfl⟩, fun c h => by simp [oneCounted, h], fun c h => by simp [oneCounted, h]⟩

theorem cntrGetExact_iff_both :
    CntrGetExact oneCounted (fun _ => 64) (fun _ => 1) ⟨⟨.aclCounter, 1⟩, ⟨.aclTable, 1⟩, .bytesPackets⟩
      [⟨.packets, .u64 0⟩, ⟨.bytes, .u64 0⟩] :=
  (cntrGetExact_iff cntrNpu_oneCounted (by simp)).mpr fun _ hone => absurd hone (by decide)

/-- **The counterexample.** The packets of a counter of both kinds are read as its bytes. -/
theorem not_cntrGetExact_packets :
    ¬ CntrGetExact oneCounted (fun _ => 64) (fun _ => 1) ⟨⟨.aclCounter, 1⟩, ⟨.aclTable, 1⟩, .bytesPackets⟩
      [⟨.packets, .u64 0⟩] := fun h =>
  absurd (h.2 (by decide)) (by decide)

end OpxSai
