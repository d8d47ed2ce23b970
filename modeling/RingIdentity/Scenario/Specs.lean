import RingIdentity.Scenario.World
import RingIdentity.Membership.Cloud
import RingIdentity.Identity.Error
/-!
Reading the parts of a scenario from its request: records, registries, clouds, scripts and
errors; and writing back what a scenario shows of them.
-/
namespace RingIdentity

namespace Scenario

/-- Reads a list of embedded records. -/
def recordsOf (items : List Json) : Reply (List RingInstance) :=
  items.mapM (embedded RingInstance.read)

/-- Reads a registry spec into the world: its records and faults. -/
def registrySpec (spec : Json) : Reply (Registry × RegistryFaults) := do
  let rs ← recordsOf (items spec "records")
  .ok (Registry.ofRecords rs,
    { down := boolD spec "down" false, downNamespaces := texts spec "down_namespaces",
      failCalls := (items spec "fail_calls").filterMap fun j =>
        match j with | .int i => if i ≥ 0 then some i.toNat else none | _ => none })

/-- The members of a group spec. -/
def groupMembers (spec : Json) : List GroupMember :=
  (items spec "instances").filterMap fun j =>
    match j with
    | .arr [.str i, .str s] => some ⟨i, s⟩
    | _ => none

/-- Reads an autoscaling group spec, with the key that sees it. -/
def groupSpec (spec : Json) : String × AutoScalingGroup :=
  (textD spec "key" "AKIAOWN",
    { name := textD spec "name" "", maxSize := (natD spec "max_size" 0).toUInt32, members := groupMembers spec })

/-- Reads a page spec, with the key that sees it. -/
def pageSpec (spec : Json) : String × List ListedInstance :=
  (textD spec "key" "AKIAOWN", (groupMembers spec).map fun g => ⟨g.instanceId, g.lifecycleState⟩)

/-- Reads a rule spec. -/
def ruleSpec (spec : Json) : IpPermission :=
  { protocol := textD spec "protocol" "tcp", fromPort := natD spec "from_port" 0,
    toPort := natD spec "to_port" 0, ipRanges := texts spec "ip_ranges" }

/-- Reads a security group spec. -/
def securityGroupSpec (spec : Json) : StoredGroup :=
  { group := { groupId := textD spec "id" "", groupName := textD spec "name" "",
               permissions := (items spec "rules").map ruleSpec },
    vpc := text? spec "vpc" }

/-- Reads a cloud error spec. -/
def cloudErrorSpec (spec : Json) : CloudError := ⟨textD spec "code" "", textD spec "message" ""⟩

/-- Reads the fault fields of a spec. -/
def faultSpec (spec : Json) : InjectedFault :=
  { error := (spec.field? "fault").map cloudErrorSpec, calls := texts spec "fault_on",
    key := text? spec "fault_key" }

/-- Reads a cloud spec. -/
def cloudSpec (spec : Json) : MemoryCloud :=
  { groups := (items spec "groups").map groupSpec, pages := (items spec "pages").map pageSpec,
    securityGroups := (items spec "security_groups").map securityGroupSpec,
    fault := faultSpec spec }

/-- An account by name. -/
def accountOf (s : String) : Account := if s = "cross" then .cross else .own

/-- Reads a membership error spec. -/
def membershipErrorSpec (spec : Json) : MembershipError :=
  match spec with
  | .str "missing_vpc_id" => .missingVpcId
  | spec =>
    match spec.field? "cloud", spec.field? "sg_not_found", spec.field? "missing_asg",
        spec.field? "unsupported" with
    | some c, _, _, _ =>
      .cloud (textD c "operation" "") (accountOf (textD c "account" "own")) (cloudErrorSpec c)
    | _, some g, _, _ => .securityGroupNotFound (textD g "group_name" "") (textD g "vpc_id" "")
    | _, _, some (.str i), _ => .missingAutoScalingGroup i
    | _, _, _, some (.str u) => .unsupported u
    | _, _, _, _ => .missingVpcId

/-- Reads a registry error spec. -/
def registryErrorSpec (spec : Json) : RegistryError :=
  match spec.field? "unavailable", spec.field? "conflict", spec.field? "not_found" with
  | some (.str r), _, _ => .unavailable r
  | _, some c, _ => .conflict (textD c "app" "") (textD c "rac" "") (natD c "id" 0)
  | _, _, some c => .notFound (textD c "app" "") (textD c "rac" "") (natD c "id" 0)
  | _, _, _ => .unavailable ""

/-- Reads a strategy error spec. -/
def retrieverErrorSpec (spec : Json) : RetrieverError :=
  match spec.field? "registry", spec.field? "membership", spec.field? "other" with
  | some r, _, _ => .registry (registryErrorSpec r)
  | _, some m, _ => .membership (membershipErrorSpec m)
  | _, _, some (.str t) => .other t
  | _, _, _ => .other ""

/-- Reads an acquisition by name. -/
def acquisitionOf (s : String) : Acquisition :=
  if s = "reclaimed" then .reclaimed else if s = "dead" then .dead
  else if s = "pre_generated" then .preGenerated else .new

/-- Reads an identity error spec. -/
def identityErrorSpec (spec : Json) : IdentityError :=
  match spec with
  | .str "new_token_forbidden" => .newTokenForbidden
  | .str "exhausted" => .exhausted
  | spec =>
    match spec.field? "registry", spec.field? "membership", spec.field? "retriever",
        spec.field? "mint_exhausted" with
    | some r, _, _, _ =>
      .registry (textD r "namespace" "") (registryErrorSpec ((r.field? "error").getD .null))
    | _, some m, _, _ => .membership (membershipErrorSpec m)
    | _, _, some r, _ =>
      .retriever (acquisitionOf (textD r "acquisition" "new"))
        (retrieverErrorSpec ((r.field? "error").getD .null))
    | _, _, _, some x =>
      .mintExhausted (natD x "attempts" 0) (retrieverErrorSpec ((x.field? "error").getD .null))
    | _, _, _, _ => .exhausted

/-- Reads a script step. -/
def stepSpec (spec : Json) : Reply ScriptStep := do
  let side ← embedded? RingInstance.read spec "side_register"
  let kind := textD spec "kind" "none"
  let action ←
    if kind = "claim" then do
      let r ← needEmbedded RingInstance.read spec "instance"
      pure (ScriptAction.claim r (text? spec "replaced_ip") (boolD spec "register" false))
    else if kind = "mint" then pure .mint
    else if kind = "error" then pure (.fail (retrieverErrorSpec ((spec.field? "error").getD .null)))
    else pure .nothing
  .ok { action, sideRecord := side }

/-- Reads a script. -/
def scriptSpec (req : Json) (key : String) : Reply (List ScriptStep) := (items req key).mapM stepSpec

/-- The JSON form of a lookup query. -/
def queryJson : SecurityGroupQuery → Json
  | .byNames ns => .obj [("by_names", Json.strs ns)]
  | .byNameInVpc n v => .obj [("by_name_in_vpc", .obj [("name", .str n), ("vpc_id", .str v)])]

/-- The JSON form of a target. -/
def targetJson : GroupTarget → Json
  | .name n => .obj [("name", .str n)]
  | .id i => .obj [("id", .str i)]

/-- The JSON form of a rule. -/
def ruleJson (p : IpPermission) : Json :=
  .obj [("protocol", .str p.protocol), ("from_port", Json.nat p.fromPort),
    ("to_port", Json.nat p.toPort), ("ip_ranges", Json.strs p.ipRanges)]

/-- The JSON form of a recorded call. -/
def callJson : CloudCall → Json
  | .describeAutoScalingGroups k ns =>
    .obj [("call", .str "describe_auto_scaling_groups"), ("key", .str k), ("names", Json.strs ns)]
  | .describeInstances k t =>
    .obj [("call", .str "describe_instances"), ("key", .str k), ("token", Json.optStr t)]
  | .describeSecurityGroups k q =>
    .obj [("call", .str "describe_security_groups"), ("key", .str k), ("query", queryJson q)]
  | .authorizeIngress k t ps =>
    .obj [("call", .str "authorize_ingress"), ("key", .str k), ("target", targetJson t),
      ("permissions", .arr (ps.map ruleJson))]
  | .revokeIngress k t ps =>
    .obj [("call", .str "revoke_ingress"), ("key", .str k), ("target", targetJson t),
      ("permissions", .arr (ps.map ruleJson))]

/-- The JSON form of a rack map. -/
def rackMapJson (m : RackMap) : Json :=
  .obj [("racks", .arr (m.racks.map fun (r, ms) => .arr [.str r, .arr (ms.map RingInstance.toJson)])),
    ("len", Json.nat m.size), ("rack_count", Json.nat m.rackCount), ("is_empty", .bool m.isEmpty)]

/-- The JSON form of a resolved identity. -/
def identityJson (i : Identity) : Json :=
  .obj [("instance", i.inst.toJson), ("info", i.info.toJson),
    ("acquisition", .str i.acquisition.name), ("out_of_service", .bool i.outOfService),
    ("is_replace", .bool i.isReplace), ("is_token_pregenerated", .bool i.isTokenPregenerated),
    ("replaced_ip", .str i.replacedIp), ("backup_identifier", .str i.backupIdentifier),
    ("token", Json.optStr i.inst.token), ("instance_id", .str i.inst.instanceId),
    ("host_ip", .str i.inst.hostIp), ("host_name", .str i.inst.hostName),
    ("is_externally_defined_token", .bool i.isExternallyDefinedToken)]

end Scenario

end RingIdentity
