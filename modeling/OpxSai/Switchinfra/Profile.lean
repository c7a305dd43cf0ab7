import Mathlib.Data.List.Basic
import Mathlib.Logic.Function.Basic
import OpxSai.Common.Object

/-!
# The switch profile

`sai_switch_attribute_config` walks the pairs of a profile and recognises a key by comparing as many
characters as the key has. A key that is cut short so is the first of the names that begin with it.

* `profileExact_iff` — when every setting has the value of the last pair with its name.
-/

variable {names : ProfileNames} {pairs : List (List Char × List Char)}

namespace OpxSai

/-! ## The loop -/

/-- What a profile sets, in the order in which the keys are compared. -/
inductive ProfileKey where
  | fdbTableSize | l3RouteTableSize | l3NeighborTableSize | numLagMembers | numLags
  | numEcmpMembers | numEcmpGroups | numUnicastQueues | numMulticastQueues | numQueues | numCpuQueues
deriving DecidableEq

def profileKeys : List ProfileKey :=
  [.fdbTableSize, .l3RouteTableSize, .l3NeighborTableSize, .numLagMembers, .numLags,
    .numEcmpMembers, .numEcmpGroups, .numUnicastQueues, .numMulticastQueues, .numQueues, .numCpuQueues]

/-- The names `SAI_KEY_*`, and what `strtol` reads a value as, in an `uint_t`. -/
structure ProfileNames where
  name : ProfileKey → List Char
  strtol : List Char → BitVec 32

/-- The setting that a key is taken for: `strncmp` looks at no more characters than the key has. -/
def ProfileNames.pick (names : ProfileNames) (key : List Char) : Option ProfileKey :=
  profileKeys.find? fun k => key.isPrefixOf (names.name k)

/-- The loop of `sai_switch_attribute_config`, over the pairs that the method table hands out. -/
def profilePairsSet (names : ProfileNames) :
    List (List Char × List Char) → (ProfileKey → BitVec 32) → ProfileKey → BitVec 32
  | [], settings => settings
  | (key, value) :: pairs, settings =>
    profilePairsSet names pairs (match names.pick key with
      | none => settings
      | some k => Function.update settings k (names.strtol value))

/-- `sai_switch_attribute_config`; there may be no method table to ask. -/
def switchAttributeConfig (names : ProfileNames) (pairs : Option (List (List Char × List Char)))
    (settings : ProfileKey → BitVec 32) : Status × (ProfileKey → BitVec 32) :=
  match pairs with
  | none => (.notSupported, settings)
  | some pairs => (.success, profilePairsSet names pairs settings)

/-! ## The last pair -/

def ProfileNames.Apart (names : ProfileNames) : Prop := ∀ j k, names.name j <+: names.name k → j = k

def ProfileNames.lastValue (names : ProfileNames) (kind : List Char → Bool)
    (pairs : List (List Char × List Char)) : Option (BitVec 32) :=
  (pairs.reverse.find? fun pair => kind pair.1).map fun pair => names.strtol pair.2

/-- **The profile is applied exactly**: every setting has the value of the last pair with its name. -/
def ProfileExact (names : ProfileNames) (pairs : List (List Char × List Char)) : Prop :=
  ∀ settings k, (switchAttributeConfig names (some pairs) settings).2 k =
    (names.lastValue (· == names.name k) pairs).getD (settings k)

/-- **When the profile is applied exactly.** The last key that is taken for a setting is its name, or
the pair has the value of the last one with that name. -/
def ProfileFits (names : ProfileNames) (pairs : List (List Char × List Char)) : Prop :=
  ∀ k pair, pairs.reverse.find? (fun pair => names.pick pair.1 == some k) = some pair →
    pair.1 = names.name k ∨ names.lastValue (· == names.name k) pairs = some (names.strtol pair.2)

theorem pick_name (h : names.Apart) {k : ProfileKey} : names.pick (names.name k) = some k := by
  have hmem : k ∈ profileKeys := by cases k <;> decide
  cases hpick : names.pick (names.name k) with
  | none => exact absurd (List.find?_eq_none.mp hpick k hmem) (by simp)
  | some j =>
    have hprefix := List.find?_some (p := fun j => (names.name k).isPrefixOf (names.name j)) hpick
    rw [h k j (List.isPrefixOf_iff_prefix.mp hprefix)]

theorem profilePairsSet_eq (names) (k) :
    ∀ pairs settings, profilePairsSet names pairs settings k =
      (names.lastValue (names.pick · == some k) pairs).getD (settings k)
  | [], _ => rfl
  | (key, value) :: pairs, settings => by
    rw [profilePairsSet, profilePairsSet_eq _ k _]
    simp only [ProfileNames.lastValue, List.reverse_cons, List.find?_append]
    cases pairs.reverse.find? fun pair => names.pick pair.1 == some k with
    | some pair => rfl
    | none =>
      cases hpick : names.pick key with
      | none => simp [hpick]
      | some j =>
        by_cases hj : j = k
        · simp [hpick, hj]
        · simp [hpick, hj, Function.update_of_ne (Ne.symm hj)]

/-- The last pair with a name is the last that is taken for its setting, unless a shorter key follows. -/
theorem lastValue_name (h : names.Apart) (k) :
    match pairs.reverse.find? (fun pair => names.pick pair.1 == some k) with
    | none => names.lastValue (· == names.name k) pairs = none
    | some pair => pair.1 = names.name k →
        names.lastValue (· == names.name k) pairs = some (names.strtol pair.2) := by
  unfold ProfileNames.lastValue
  induction pairs.reverse with
  | nil => rfl
  | cons pair pairs ih =>
    by_cases hname : pair.1 = names.name k
    · simp [hname, pick_name h]
    by_cases hpick : names.pick pair.1 = some k
    · simp [hname, hpick]
    · simpa [hname, hpick] using ih

/-- **When the profile is applied key by key.** -/
theorem profileExact_iff (h : names.Apart) : ProfileExact names pairs ↔ ProfileFits names pairs := by
  simp only [ProfileExact, switchAttributeConfig, profilePairsSet_eq]
  rw [forall_comm]
  refine forall_congr' fun k => ?_
  have hlast := @lastValue_name _ pairs h k
  rw [ProfileNames.lastValue]
  cases hpick : pairs.reverse.find? fun pair => names.pick pair.1 == some k with
  | none =>
    rw [hpick] at hlast
    simp [hlast]
  | some pair =>
    rw [hpick] at hlast
    constructor
    · rintro hexact pair' heq
      obtain rfl := Option.some.inj heq
      cases hvalue : names.lastValue (· == names.name k) pairs with
      | some value =>
        -- nothing depends on what the setting was before
        have hv := hexact fun _ => 0
        rw [hvalue] at hv
        exact .inr (congrArg some hv.symm)
      | none =>
        have hv := hexact fun _ => names.strtol pair.2 + 1
        rw [hvalue] at hv
        exact absurd hv (by simp)
    · intro hfits settings
      rcases hfits pair rfl with hname | hvalue
      · rw [hlast hname]
        rfl
      · rw [hvalue]
        rfl

/-- The names, and one digit to read. -/
def switchProfileNames : ProfileNames where
  name
    | .fdbTableSize => "SAI_FDB_TABLE_SIZE".toList
    | .l3RouteTableSize => "SAI_L3_ROUTE_TABLE_SIZE".toList
    | .l3NeighborTableSize => "SAI_L3_NEIGHBOR_TABLE_SIZE".toList
    | .numLagMembers => "SAI_NUM_LAG_MEMBERS".toList
    | .numLags => "SAI_NUM_LAGS".toList
    | .numEcmpMembers => "SAI_NUM_ECMP_MEMBERS".toList
    | .numEcmpGroups => "SAI_NUM_ECMP_GROUPS".toList
    | .numUnicastQueues => "SAI_NUM_UNICAST_QUEUES".toList
    | .numMulticastQueues => "SAI_NUM_MULTICAST_QUEUES".toList
    | .numQueues => "SAI_NUM_QUEUES".toList
    | .numCpuQueues => "SAI_NUM_CPU_QUEUES".toList
  strtol value := value.foldl (fun n c => 10 * n + BitVec.ofNat 32 (c.toNat - '0'.toNat)) 0

theorem switchProfileNames_apart : switchProfileNames.Apart := by
  have hall : ∀ j ∈ profileKeys, ∀ k ∈ profileKeys,
      switchProfileNames.name j <+: switchProfileNames.name k → j = k := by decide
  intro j k
  exact hall j (by cases j <;> decide) k (by cases k <;> decide)

/-- A number of LAGs, and a key that nothing knows. -/
theorem profileExact_iff_lags :
    ProfileExact switchProfileNames [("SAI_NUM_LAGS".toList, "8".toList), ("LAGS".toList, "9".toList)] := by
  refine (profileExact_iff switchProfileNames_apart).mpr ?_
  intro k pair hpair
  have hpick : switchProfileNames.pick pair.1 = some k := by simpa using List.find?_some hpair
  rcases List.mem_pair.mp (List.mem_reverse.mp (List.mem_of_find?_eq_some hpair)) with rfl | rfl
  · obtain rfl := Option.some.inj ((show _ = some ProfileKey.numLags by decide).symm.trans hpick)
    exact .inl rfl
  · exact absurd ((show _ = none by decide).symm.trans hpick) (by simp)

/-- **The counterexample.** An empty key sets the size of the FDB table. -/
theorem not_profileExact_empty : ¬ ProfileExact switchProfileNames [([], "5".toList)] := by
  intro h
  exact absurd (h (fun _ => 0) .fdbTableSize) (by decide)

end OpxSai
