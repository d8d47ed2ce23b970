import RingIdentity.Json.Value
import RingIdentity.Decode.Section
import RingIdentity.Text.Blank
/-!
Facts about the local instance: its cloud id, region, rack, network, autoscaling group and host.
They are fixed for the life of the process.

An instance runs in the classic flat network, where security groups go by name, or in an
isolated network (a VPC), where they go by id within the network. Until a host is set, the host
name and address are the instance id.

As a section, the facts are a map with the fields `instance_id` (alias `id`), `region` (`dc`,
`datacenter`), `rac` (`rack`, `zone`, `availability_zone`), `network_mode` (`mode`),
`auto_scaling_group` (`asg`, `asg_name`), `vpc_id` (`network_id`), `host_name` (`hostname`) and
`host_ip` (`ip`, `address`); the first three are required. A network id that is not blank puts
the instance in an isolated network; a network mode given beside it wins over that.
-/
namespace RingIdentity

/-- The network an instance runs in. -/
inductive NetworkMode where
  /-- The flat network: security groups are addressed by name. -/
  | classic
  /-- An isolated network: security groups are addressed by id. -/
  | vpc
  deriving DecidableEq, Repr, Inhabited

namespace NetworkMode

/-- Whether this is the isolated network. -/
def isVpc : NetworkMode → Bool
  | .vpc => true
  | .classic => false

/-- The name of a network mode. -/
def name : NetworkMode → String
  | .classic => "classic"
  | .vpc => "vpc"

/-- What a network mode is read from. -/
def expecting : String := "`classic` or `vpc`"

/-- The network mode a name stands for, by slug: `classic` or `ec2_classic`, `vpc` or
`isolated`. -/
def ofName? (s : String) : Option NetworkMode :=
  if Slug.same s "classic" || Slug.same s "ec2_classic" then some .classic
  else if Slug.same s "vpc" || Slug.same s "isolated" then some .vpc
  else none

/-- Reads a network mode from a node. -/
def read (d : Dialect) (n : Node) : Except DecodeError NetworkMode := do
  let s ← n.readText d expecting
  match ofName? s with
  | some m => .ok m
  | none => .error (.refused ("unknown network mode `" ++ s ++ "`"))

end NetworkMode

/-- The facts about the local instance. -/
structure InstanceInfo where
  instanceId : String
  region : String
  rac : String
  networkMode : NetworkMode := .classic
  autoScalingGroup : String := ""
  vpcId : Option String := none
  hostName : String
  hostIp : String
  deriving DecidableEq, Repr, Inhabited

namespace InstanceInfo

/-- An instance in a region and rack, in the flat network, whose host name and address are its
id. -/
def make (instanceId region rac : String) : InstanceInfo :=
  { instanceId, region, rac, hostName := instanceId, hostIp := instanceId }

/-- The facts with an autoscaling group. -/
def withAutoScalingGroup (i : InstanceInfo) (name : String) : InstanceInfo :=
  { i with autoScalingGroup := name }

/-- The facts in an isolated network with the given id. -/
def inVpc (i : InstanceInfo) (vpcId : String) : InstanceInfo :=
  { i with networkMode := .vpc, vpcId := some vpcId }

/-- The facts with another network mode; the network id stays. -/
def withNetworkMode (i : InstanceInfo) (m : NetworkMode) : InstanceInfo :=
  { i with networkMode := m }

/-- The facts with a host name and address. -/
def withHost (i : InstanceInfo) (hostName hostIp : String) : InstanceInfo :=
  { i with hostName, hostIp }

/-- The JSON form of the facts. -/
def toJson (i : InstanceInfo) : Json :=
  .obj [("instance_id", .str i.instanceId), ("region", .str i.region), ("rac", .str i.rac),
    ("network_mode", .str i.networkMode.name), ("auto_scaling_group", .str i.autoScalingGroup),
    ("vpc_id", Json.optStr i.vpcId), ("host_name", .str i.hostName),
    ("host_ip", .str i.hostIp)]

/-- The fields of the instance section. -/
inductive Field where
  | instanceId | region | rac | networkMode | autoScalingGroup | vpcId | hostName | hostIp
  deriving DecidableEq, Repr

instance : BEq Field := ⟨fun a b => decide (a = b)⟩

/-- The layout of the instance section. -/
def layout : Layout Field where
  fields := [.instanceId, .region, .rac, .networkMode, .autoScalingGroup, .vpcId, .hostName,
    .hostIp]
  names
    | .instanceId => ["instance_id", "id"]
    | .region => ["region", "dc", "datacenter"]
    | .rac => ["rac", "rack", "zone", "availability_zone"]
    | .networkMode => ["network_mode", "mode"]
    | .autoScalingGroup => ["auto_scaling_group", "asg", "asg_name"]
    | .vpcId => ["vpc_id", "network_id"]
    | .hostName => ["host_name", "hostname"]
    | .hostIp => ["host_ip", "ip", "address"]

/-- A value of an instance field. -/
inductive Value where
  | text (s : String)
  | mode (m : NetworkMode)

/-- Reads the value of one field. -/
def readField (d : Dialect) : Field → String → Node → Except DecodeError Value
  | .networkMode, key, n => Value.mode <$> d.under (.key key) (NetworkMode.read d n)
  | _, key, n => Value.text <$> d.under (.key key) (n.readString d)

/-- What the instance section is read from. -/
def expecting : String := "a map describing the local instance"

/-- The text given for a field, if any. -/
def textOf (met : List (Field × Value)) (f : Field) : Option String :=
  match met.find? (·.1 == f) with
  | some (_, .text s) => some s
  | _ => none

/-- The text of a required field. -/
def required (met : List (Field × Value)) (f : Field) : Except DecodeError String :=
  match textOf met f with
  | some s => .ok s
  | none => .error (.missingField (layout.primary f))

/-- Reads the instance section. -/
def read (d : Dialect) (n : Node) : Except DecodeError InstanceInfo := do
  let met ← layout.collect (readField d) (← n.readMap expecting)
  let instanceId ← required met .instanceId
  let region ← required met .region
  let rac ← required met .rac
  let info := make instanceId region rac
  let info := match textOf met .vpcId with
    | some v => if Text.isBlankText v then info else info.inVpc v
    | none => info
  let info := match met.find? (·.1 == .networkMode) with
    | some (_, .mode m) => info.withNetworkMode m
    | _ => info
  let info := match textOf met .autoScalingGroup with
    | some g => info.withAutoScalingGroup g
    | none => info
  .ok (info.withHost ((textOf met .hostName).getD info.hostName)
    ((textOf met .hostIp).getD info.hostIp))

end InstanceInfo

end RingIdentity
