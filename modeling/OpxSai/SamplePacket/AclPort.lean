import OpxSai.SamplePacket.Session

/-!
# Sample packet — the ports of ACL rules

An ACL rule with a sample action samples on a list of ports, or on all of them. Each port takes
one flow of the session, and a cache remembers which sessions the rules have put on which ports.

* `samplepacketValidateObject` — is the session free to go on the ports, and put it there.
-/

variable (env : SampleAclEnv)

namespace OpxSai

/-- `dn_sai_samplepacket_acl_info_key_t` -/
structure SampleAclKey where
  port_id : Oid
  sample_object : Oid
  samplepacket_direction : SampleDirection
deriving DecidableEq

/-- The sessions, and the radix tree `sai_acl_info_per_port`. -/
structure SampleAclDb where
  db : SampleDb
  acl_info : List SampleAclKey

/-- The outside of the sample packet module, with the ports of the switch in the order of
`sai_port_info_getnext`. -/
structure SampleAclEnv where
  sample : SampleEnv
  ports : List Oid

namespace SampleAclDb

def avail (env : SampleAclEnv) (r : SampleResource) (db : SampleAclDb) : Bool :=
  env.sample.avail db.db.npu_log r

/-- `sai_samplepacket_session_port_add` for a flow. -/
def flowAdd (sample_object port_id : Oid) (direction : SampleDirection)
    (db : SampleAclDb) : Status × SampleAclDb :=
  let x := samplepacketSessionPortAdd env.sample sample_object port_id direction .flowBased db.db
  (x.1, { db with db := x.2 })

/-- `sai_samplepacket_session_port_remove` for a flow. -/
def flowRemove (sample_object port_id : Oid) (direction : SampleDirection)
    (db : SampleAclDb) : Status × SampleAclDb :=
  let x := samplepacketSessionPortRemove env.sample sample_object port_id direction .flowBased db.db
  (x.1, { db with db := x.2 })

/-- `std_radix_remove` from the cache. -/
def aclInfoRemove (key : SampleAclKey) (db : SampleAclDb) : SampleAclDb :=
  { db with acl_info := db.acl_info.filter fun k => k ≠ key }

end SampleAclDb

open SampleAclDb

/-- `sai_samplepacket_acl_is_same_sample_on_port`. The walk starts behind the key without a
session and visits every key of the port. -/
def samplepacketAclIsSameSampleOnPort (port_id sample_object : Oid)
    (sample_direction : SampleDirection) (db : SampleAclDb) : Status :=
  if ⟨port_id, .null, sample_direction⟩ ∈ db.acl_info then .success
  else if db.acl_info.any fun k => k.port_id = port_id ∧ k.sample_object ≠ sample_object ∧
      k.samplepacket_direction = sample_direction then .failure
  else .success

/-- `sai_samplepacket_check_and_insert_acl_info` -/
def samplepacketCheckAndInsertAclInfo (port_id sample_object : Oid)
    (sample_direction : SampleDirection) (db : SampleAclDb) : Status × SampleAclDb :=
  let key := ⟨port_id, sample_object, sample_direction⟩
  if key ∈ db.acl_info then (.success, db)
  else if db.avail env .aclInfo then (.success, { db with acl_info := db.acl_info ++ [key] })
  else (.failure, db)

/-- `sai_samplepacket_validate_object_on_portlist` -/
def samplepacketValidateObjectOnPortlist (sample_object : Oid) (sample_direction : SampleDirection)
    (db : SampleAclDb) : List Oid → Status
  | [] => .success
  | port_id :: portlist =>
    let rc := samplepacketAclIsSameSampleOnPort port_id sample_object sample_direction db
    if rc ≠ .success then rc
    else samplepacketValidateObjectOnPortlist sample_object sample_direction db portlist

/-- `sai_samplepacket_update_object_on_portlist`. A port whose cache entry cannot be made is taken
back and the loop goes on: `rc` is what the ports before have left. -/
def samplepacketUpdateObjectOnPortlist (env : SampleAclEnv) (sample_object : Oid)
    (sample_direction : SampleDirection) (rc : Status) :
    List Oid → SampleAclDb → Status × SampleAclDb
  | [], db => (rc, db)
  | port_id :: portlist, db =>
    let x := db.flowAdd env sample_object port_id sample_direction
    if x.1 ≠ .success then x
    else
      let y := samplepacketCheckAndInsertAclInfo env port_id sample_object sample_direction x.2
      let db := if y.1 ≠ .success then
        (y.2.flowRemove env sample_object port_id sample_direction).2 else y.2
      samplepacketUpdateObjectOnPortlist env sample_object sample_direction y.1 portlist db

/-- `sai_samplepacket_validate_object`; without a port list it is about all ports, and a dummy
entry of the cache says so. -/
def samplepacketValidateObject (portlist : Option (List Oid))
    (sample_object : Oid) (sample_direction : SampleDirection) (validate update : Bool)
    (db : SampleAclDb) : Status × SampleAclDb :=
  if !validate ∧ !update then (.success, db)
  else
    match portlist with
    | none =>
      if !db.avail env .portList then (.noMemory, db)
      else if env.ports = [] then (.failure, db)
      else
        let rc := if validate then
          samplepacketValidateObjectOnPortlist sample_object sample_direction db env.ports
          else .success
        if rc ≠ .success then (rc, db)
        else if update then
          let x := samplepacketUpdateObjectOnPortlist env sample_object sample_direction .success
            env.ports db
          if x.1 ≠ .success then x
          else samplepacketCheckAndInsertAclInfo env .null sample_object sample_direction x.2
        else (.success, db)
    | some portlist =>
      let rc := if validate then
        samplepacketValidateObjectOnPortlist sample_object sample_direction db portlist
        else .success
      if rc ≠ .success then (rc, db)
      else if update then
        samplepacketUpdateObjectOnPortlist env sample_object sample_direction .success portlist db
      else (.success, db)

/-- The loop of `sai_samplepacket_remove_object` over the ports. -/
def samplepacketRemoveFromPorts (env : SampleAclEnv) (sample_object : Oid)
    (sample_direction : SampleDirection) (rc : Status) :
    List Oid → SampleAclDb → Status × SampleAclDb
  | [], db => (rc, db)
  | port_id :: portlist, db =>
    let key := ⟨port_id, sample_object, sample_direction⟩
    if key ∈ db.acl_info then
      let x := db.flowRemove env sample_object port_id sample_direction
      let db := if x.1 ≠ .success then x.2 else x.2.aclInfoRemove key
      samplepacketRemoveFromPorts env sample_object sample_direction x.1 portlist db
    else samplepacketRemoveFromPorts env sample_object sample_direction rc portlist db

/-- `sai_samplepacket_remove_object` -/
def samplepacketRemoveObject (portlist : Option (List Oid))
    (sample_object : Oid) (sample_direction : SampleDirection) (db : SampleAclDb) :
    Status × SampleAclDb :=
  match portlist with
  | none =>
    samplepacketRemoveFromPorts env sample_object sample_direction .success env.ports
      (db.aclInfoRemove ⟨.null, sample_object, sample_direction⟩)
  | some portlist =>
    samplepacketRemoveFromPorts env sample_object sample_direction .success portlist db

end OpxSai
