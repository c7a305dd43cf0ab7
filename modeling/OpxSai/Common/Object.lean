/-!
# Object ids and status codes

What every module of the switch abstraction shares: the ids it hands out, and the codes it
answers with. Pointers are heap addresses; a `NULL` pointer is `none`.
-/

namespace OpxSai

abbrev Ptr := Nat

/-- The types of objects. `other` stands for those that no modelled function asks for. -/
inductive ObjType where
  | null | port | lag | vlan | virtualRouter | routerInterface | nextHop
  | nextHopGroup | nextHopGroupMember | tunnel | other
  | aclTable | aclEntry | aclCounter | aclRange | aclTableGroup | aclTableGroupMember
  | policer | mirrorSession | samplePacket | queue | udfGroup
  | stp | stpPort | vlanMember | lagMember | bridge | bridgePort
  | l2mcGroup | l2mcGroupMember
  | wred | bufferPool | bufferProfile | ingressPriorityGroup | portPool
  | qosMap | scheduler | schedulerGroup
  | hash | tunnelMap | tunnelMapEntry | tunnelTermEntry
  | udf | udfMatch
deriving DecidableEq

def ObjType.toNat : ObjType → Nat
  | .null => 0
  | .port => 1
  | .lag => 2
  | .vlan => 3
  | .virtualRouter => 4
  | .routerInterface => 5
  | .nextHop => 6
  | .nextHopGroup => 7
  | .nextHopGroupMember => 8
  | .tunnel => 9
  | .other => 10
  | .aclTable => 11
  | .aclEntry => 12
  | .aclCounter => 13
  | .aclRange => 14
  | .aclTableGroup => 15
  | .aclTableGroupMember => 16
  | .policer => 17
  | .mirrorSession => 18
  | .samplePacket => 19
  | .queue => 20
  | .udfGroup => 21
  | .stp => 22
  | .stpPort => 23
  | .vlanMember => 24
  | .lagMember => 25
  | .bridge => 26
  | .bridgePort => 27
  | .l2mcGroup => 28
  | .l2mcGroupMember => 29
  | .wred => 30
  | .bufferPool => 31
  | .bufferProfile => 32
  | .ingressPriorityGroup => 33
  | .portPool => 34
  | .qosMap => 35
  | .scheduler => 36
  | .schedulerGroup => 37
  | .hash => 38
  | .tunnelMap => 39
  | .tunnelMapEntry => 40
  | .tunnelTermEntry => 41
  | .udf => 42
  | .udfMatch => 43

/-- `sai_object_id_t`: the object type is part of the id. -/
structure Oid where
  type : ObjType
  id : Nat
deriving DecidableEq

/-- `SAI_NULL_OBJECT_ID` -/
def Oid.null : Oid := ⟨.null, 0⟩

/-- `sai_uoid_create` -/
def uoidCreate (type : ObjType) (hw_id : Nat) : Oid := ⟨type, hw_id⟩

/-- `sai_status_t`. The attribute codes carry the index of the attribute they name. -/
inductive Status where
  | success | failure | notSupported | noMemory | insufficientResources
  | invalidParameter | itemAlreadyExists | itemNotFound | bufferOverflow
  | invalidObjectType | invalidObjectId | objectInUse | mandatoryAttributeMissing
  | notImplemented | addrNotFound | uninitialized | tableFull
  | invalidVlanId | invalidPortMember | notExecuted
  | invalidAttribute (index : Nat) | invalidAttrValue (index : Nat)
  | attrNotImplemented (index : Nat) | unknownAttribute (index : Nat)
  | attrNotSupported (index : Nat)
deriving DecidableEq

/-- Where a condition holds, the branch for its failure is not taken. -/
theorem if_ok {α : Sort _} {c : Prop} [Decidable (¬ c)] {a b : α} (h : c) : (if ¬ c then a else b) = b :=
  if_neg fun hnot => hnot h

/-- `sai_get_indexed_ret_val`: an attribute code takes the index of the attribute it is about. -/
def getIndexedRetVal (status : Status) (index : Nat) : Status :=
  match status with
  | .invalidAttribute _ => .invalidAttribute index
  | .invalidAttrValue _ => .invalidAttrValue index
  | .attrNotImplemented _ => .attrNotImplemented index
  | .unknownAttribute _ => .unknownAttribute index
  | .attrNotSupported _ => .attrNotSupported index
  | status => status

theorem getIndexedRetVal_ne_success {rc : Status} {index : Nat} (h : rc ≠ .success) :
    getIndexedRetVal rc index ≠ .success := by
  cases rc <;> simp_all [getIndexedRetVal]

/-- `dn_sai_get_next_free_id`: an id generator asks its `is_id_in_use` callback and
returns only ids that are not in use. -/
structure IdGen where
  next : (Nat → Bool) → Option Nat
  unused : ∀ is_id_in_use n, next is_id_in_use = some n → is_id_in_use n = false

/-- The generator that hands out the first free id below `bound`. -/
def IdGen.below (bound : Nat) : IdGen where
  next := fun is_id_in_use => (List.range bound).find? fun n => !is_id_in_use n
  unused := by
    intro is_id_in_use n h
    simpa using List.find?_some h

end OpxSai
