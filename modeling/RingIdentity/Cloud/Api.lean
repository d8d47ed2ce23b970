import RingIdentity.Cloud.Credentials
/-!
The part of a cloud's control plane that membership needs: descriptions of autoscaling groups
and of instances, and the ingress rules of security groups.

Instances are listed a page at a time; a page carries the token of the next page while more
follow. An instance that is terminating, shutting down or terminated (in any ASCII case) has
left the cluster; every other state counts as live. A client is opened for given credentials
and region, used for the calls of one operation, and dropped.
-/
namespace RingIdentity

/-- A fault answered by the cloud: a code and a message. -/
structure CloudError where
  code : String
  message : String
  deriving DecidableEq, Repr, Inhabited

namespace CloudError

/-- `code: message`. -/
def text (e : CloudError) : String := e.code ++ ": " ++ e.message

end CloudError

/-- The lifecycle states of instances that have left the cluster. -/
def departedStates : List String := ["terminating", "shutting-down", "terminated"]

/-- Whether an instance in a state is live: its state is not a departed one, in any ASCII
case. -/
def isLiveState (state : String) : Bool := !departedStates.any (Text.sameAsciiCase state)

/-- A member of an autoscaling group. -/
structure GroupMember where
  instanceId : String
  lifecycleState : String
  deriving DecidableEq, Repr, Inhabited

/-- An autoscaling group: its name, maximum size (an unsigned 32-bit count) and members. -/
structure AutoScalingGroup where
  name : String
  maxSize : UInt32
  members : List GroupMember
  deriving DecidableEq, Repr, Inhabited

/-- An instance as an instance listing shows it. -/
structure ListedInstance where
  instanceId : String
  state : String
  deriving DecidableEq, Repr, Inhabited

/-- One page of an instance listing: reservations of instances, and the token of the next
page. -/
structure InstancePage where
  reservations : List (List ListedInstance) := []
  nextToken : Option String := none
  deriving DecidableEq, Repr, Inhabited

/-- The live instances of a page, in reservation order and then instance order. -/
def InstancePage.liveIds (p : InstancePage) : List String :=
  (p.reservations.flatten.filter (isLiveState ·.state)).map (·.instanceId)

/-- An ingress rule: a protocol, a range of ports and the address ranges it admits. -/
structure IpPermission where
  protocol : String
  fromPort : Nat
  toPort : Nat
  ipRanges : List String
  deriving DecidableEq, Repr, Inhabited

namespace IpPermission

/-- A rule admitting TCP from some address ranges to a range of ports. -/
def tcp (ranges : List String) (fromPort toPort : Nat) : IpPermission :=
  ⟨"tcp", fromPort, toPort, ranges⟩

/-- Whether a rule covers exactly a range of ports. -/
def coversExactly (p : IpPermission) (fromPort toPort : Nat) : Bool :=
  p.fromPort == fromPort && p.toPort == toPort

end IpPermission

/-- A security group: its id, name and ingress rules. -/
structure SecurityGroup where
  groupId : String
  groupName : String
  permissions : List IpPermission
  deriving DecidableEq, Repr, Inhabited

/-- How security groups are looked up: by name in the flat network, or by name within an
isolated network. -/
inductive SecurityGroupQuery where
  | byNames (names : List String)
  | byNameInVpc (name vpcId : String)
  deriving DecidableEq, Repr, Inhabited

/-- The security group a rule change applies to. -/
inductive GroupTarget where
  | name (name : String)
  | id (id : String)
  deriving DecidableEq, Repr, Inhabited

namespace GroupTarget

/-- The record form of a target, such as `Name("sg")`. -/
def record : GroupTarget → String
  | .name n => "Name(" ++ Text.quoted n ++ ")"
  | .id i => "Id(" ++ Text.quoted i ++ ")"

end GroupTarget

/-- A client of the cloud, opened for some credentials and a region. -/
structure CloudClient (m : Type → Type) where
  /-- The groups among some names. -/
  describeAutoScalingGroups : List String → m (Except CloudError (List AutoScalingGroup))
  /-- The page of the instance listing that a token names; the first page for none. -/
  describeInstances : Option String → m (Except CloudError InstancePage)
  /-- The security groups a query finds. -/
  describeSecurityGroups : SecurityGroupQuery → m (Except CloudError (List SecurityGroup))
  /-- Adds ingress rules to a group. -/
  authorizeIngress : GroupTarget → List IpPermission → m (Except CloudError Unit)
  /-- Removes ingress rules from a group. -/
  revokeIngress : GroupTarget → List IpPermission → m (Except CloudError Unit)

/-- Opens clients of a cloud. -/
structure CloudConnector (m : Type → Type) where
  /-- A client for autoscaling calls. -/
  autoscaling : Credentials → String → m (CloudClient m)
  /-- A client for instance and security group calls. -/
  compute : Credentials → String → m (CloudClient m)
  /-- A bound on the pages of an instance listing made now: the listing ends within that
  many pages. -/
  pageBound : m Nat

end RingIdentity
