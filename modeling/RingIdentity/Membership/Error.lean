import RingIdentity.Cloud.Api
import RingIdentity.Json.Value
/-!
Membership failures. Only a fault answered by the cloud is transient, worth trying again; a
missing network id or autoscaling group, a security group that does not exist, an operation the
strategy does not support and a listing of instances that outran the bound its connector set
are not.
-/
namespace RingIdentity

/-- Why a membership query failed. -/
inductive MembershipError where
  /-- A cloud call failed against one of the accounts. -/
  | cloud (operation : String) (account : Account) (source : CloudError)
  /-- No security group of the name in the network. -/
  | securityGroupNotFound (groupName vpcId : String)
  /-- The instance runs in an isolated network but has no network id. -/
  | missingVpcId
  /-- The instance has no autoscaling group and no siblings are set. -/
  | missingAutoScalingGroup (instanceId : String)
  /-- The strategy does not support the operation. -/
  | unsupported (what : String)
  /-- A listing of an account's instances was still going after the pages its connector allows. -/
  | unfinishedListing (account : Account) (pages : Nat)
  deriving DecidableEq, Repr, Inhabited

namespace MembershipError

/-- The message of a failure. -/
def message : MembershipError → String
  | .cloud op acct src =>
    "cloud call '" ++ op ++ "' failed against the " ++ acct.name ++ " account: " ++ src.text
  | .securityGroupNotFound g v => "no security group named '" ++ g ++ "' in network '" ++ v ++ "'"
  | .missingVpcId => "instance runs in an isolated network but has no network id"
  | .missingAutoScalingGroup i =>
    "instance '" ++ i ++ "' has no autoscaling group and no siblings are set"
  | .unsupported w => "unsupported membership operation: " ++ w
  | .unfinishedListing acct n =>
    "the instance listing of the " ++ acct.name ++ " account did not end within " ++ toString n ++
      " pages"

/-- The record form of a failure, such as `MissingVpcId`. -/
def record : MembershipError → String
  | .cloud op acct src =>
    "Cloud \x7b operation: " ++ Text.quoted op ++ ", account: " ++
      (match acct with | .own => "Own" | .cross => "Cross") ++ ", source: CloudError \x7b code: " ++
      Text.quoted src.code ++ ", message: " ++ Text.quoted src.message ++ " \x7d \x7d"
  | .securityGroupNotFound g v =>
    "SecurityGroupNotFound \x7b group_name: " ++ Text.quoted g ++ ", vpc_id: " ++ Text.quoted v ++
      " \x7d"
  | .missingVpcId => "MissingVpcId"
  | .missingAutoScalingGroup i => "MissingAutoScalingGroup \x7b instance_id: " ++ Text.quoted i ++ " \x7d"
  | .unsupported w => "Unsupported(" ++ Text.quoted w ++ ")"
  | .unfinishedListing acct n =>
    "UnfinishedListing \x7b account: " ++ (match acct with | .own => "Own" | .cross => "Cross") ++
      ", pages: " ++ toString n ++ " \x7d"

/-- Whether trying again may help: only for cloud faults. -/
def isTransient : MembershipError → Bool
  | .cloud .. => true
  | _ => false

/-- The kind of a failure. -/
def kind : MembershipError → String
  | .cloud .. => "MembershipError.Cloud"
  | .securityGroupNotFound .. => "MembershipError.SecurityGroupNotFound"
  | .missingVpcId => "MembershipError.MissingVpcId"
  | .missingAutoScalingGroup _ => "MembershipError.MissingAutoScalingGroup"
  | .unsupported _ => "MembershipError.Unsupported"
  | .unfinishedListing .. => "MembershipError.UnfinishedListing"

/-- The error object of a failure. -/
def toJson (e : MembershipError) : Json :=
  .obj [("error", .str e.kind), ("message", .str e.message), ("transient", .bool e.isTransient)]

end MembershipError

end RingIdentity
