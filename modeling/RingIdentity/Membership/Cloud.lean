import RingIdentity.Membership.Access
import RingIdentity.Membership.Settings
import RingIdentity.Logging.Event
import RingIdentity.Text.Blank
/-!
Membership from a cloud's control plane.

The live instances of an account are found through the autoscaling groups of the local rack (the
instance's own group and the configured siblings, trimmed, the blank ones dropped, each once),
or by listing every instance of the account page by page; either way only live instances count.
A cluster of two accounts takes the live instances of both, those of its own account first, each
once. The capacity of the rack is the sum of the maximum sizes of its groups; a listing of
instances knows no capacity.

Each query of an account draws the account's credentials from its provider when it starts: the
own account's first, and the cross account's only once the own snapshot is in, and only in a
dual-account cluster. A listing of instances reads at most the number of pages its connector
allows, and one still going after them fails.

Ingress rules go to the cluster's security group: by name in the flat network, by id in an
isolated one, where the id is looked up by name within the network. Rule changes and lookups use
the own account's credentials, drawn once for each.
-/
namespace RingIdentity

/-- The live instances of two snapshots: those of the first, then those of the second, each
once, where it first appears. -/
def mergeSnapshots (own cross : List String) : List String := (own ++ cross).eraseDups

/-- Inserts a text into a sorted list of distinct texts. -/
def insertSorted (x : String) : List String → List String
  | [] => [x]
  | y :: ys => if x = y then y :: ys else if x < y then x :: y :: ys else y :: insertSorted x ys

/-- The groups of the local rack: the instance's own group and the siblings, trimmed, the blank
ones dropped, each once. -/
def groupNames (info : InstanceInfo) (s : MembershipSettings) : List String :=
  (((info.autoScalingGroup :: s.siblingAsgNames.items).map Text.trim).filter (· ≠ "")).eraseDups

/-- The live members of some autoscaling groups, in group order and then member order. -/
def liveMembers (gs : List AutoScalingGroup) : List String :=
  ((gs.flatMap (·.members)).filter (isLiveState ·.lifecycleState)).map (·.instanceId)

/-- The declared capacity of some autoscaling groups: the sum of their maximum sizes. -/
def declaredCapacity (gs : List AutoScalingGroup) : Nat :=
  (gs.map (·.maxSize.toNat)).foldr (· + ·) 0

/-- The address ranges of the rules of some security groups that cover exactly a range of
ports, sorted and each once. -/
def coveredRanges (gs : List SecurityGroup) (fromPort toPort : Nat) : List String :=
  (((gs.flatMap (·.permissions)).filter (·.coversExactly fromPort toPort)).flatMap
    (·.ipRanges)).foldl (fun acc r => insertSorted r acc) []

/-- How far a listing of instances has got. -/
inductive ScanState where
  /-- Pages remain: the token to ask with (none for the first page), the live instances of the
  pages read and how many pages were read. -/
  | reading (token : Option String) (ids : List String) (pages : Nat)
  /-- The last page was read. -/
  | done (ids : List String) (pages : Nat)
  /-- A page could not be read. -/
  | failed (error : MembershipError)
  deriving DecidableEq, Repr

namespace ScanState

/-- A listing before its first page, which is asked for with no token. -/
def start : ScanState := .reading none [] 0

end ScanState

/-- Everything a strategy needs to query one account: which account it is, the credentials drawn
for the query, the local instance and the membership settings. -/
structure AccountScope where
  account : Account
  credentials : Credentials
  info : InstanceInfo
  settings : MembershipSettings
  deriving DecidableEq, Repr

namespace AccountScope

/-- The network label of the scope's account. -/
def label (s : AccountScope) : String := s.account.networkLabel s.info.networkMode

end AccountScope

/-- Membership from a cloud: the strategy, the settings, the local instance and the credential
providers of both accounts (the cross account uses the own one's when none is given). -/
structure CloudMembership (m : Type → Type) where
  kind : MembershipKind
  settings : MembershipSettings
  info : InstanceInfo
  own : CredentialProvider m
  cross : CredentialProvider m

namespace CloudMembership

variable {m : Type → Type}

/-- The target of membership events. -/
def providerTarget : String := "ringside_membership::provider"

/-- The credential provider of an account. -/
def providerOf (c : CloudMembership m) : Account → CredentialProvider m
  | .own => c.own
  | .cross => c.cross

/-- The scope of an account queried with some credentials. -/
def scopeWith (c : CloudMembership m) (a : Account) (k : Credentials) : AccountScope :=
  { account := a, credentials := k, info := c.info, settings := c.settings }

@[simp] theorem scopeWith_account (c : CloudMembership m) (a : Account) (k : Credentials) :
    (c.scopeWith a k).account = a := rfl

@[simp] theorem scopeWith_credentials (c : CloudMembership m) (a : Account) (k : Credentials) :
    (c.scopeWith a k).credentials = k := rfl

@[simp] theorem scopeWith_info (c : CloudMembership m) (a : Account) (k : Credentials) :
    (c.scopeWith a k).info = c.info := rfl

@[simp] theorem scopeWith_settings (c : CloudMembership m) (a : Account) (k : Credentials) :
    (c.scopeWith a k).settings = c.settings := rfl

/-- The network label of an account. -/
def label (c : CloudMembership m) (a : Account) : String := a.networkLabel c.info.networkMode

variable [Monad m]

/-- Builds a cloud membership; a dual-account cluster without a cross provider warns that it uses
the own account for both. -/
def create (log : Logger m) (kind : MembershipKind) (settings : MembershipSettings)
    (info : InstanceInfo) (own : CredentialProvider m) (cross : Option (CredentialProvider m)) :
    m (CloudMembership m) := do
  if cross.isNone && settings.dualAccount then
    log { level := .warn, target := providerTarget,
          message := "Dual-account membership has no cross-account credentials; using the own account for both",
          fields := [Event.text "rac" info.rac] }
  return { kind, settings, info, own, cross := cross.getD own }

/-- The scope of an account, with credentials drawn from its provider. -/
def scope (c : CloudMembership m) (a : Account) : m AccountScope := do
  return c.scopeWith a (← (c.providerOf a).credentials)

/-- The groups of the scope's rack, described; fails before opening a client when there is no
group. -/
def describeGroups (conn : CloudConnector m) (s : AccountScope) (names : List String) :
    m (Except MembershipError (List AutoScalingGroup)) := do
  if names.isEmpty then return .error (.missingAutoScalingGroup s.info.instanceId)
  let client ← conn.autoscaling s.credentials s.info.region
  match ← client.describeAutoScalingGroups names with
  | .ok gs => return .ok gs
  | .error e => return .error (.cloud "describe_auto_scaling_groups" s.account e)

/-- Reads the next page of a listing, adding its live instances; a listing that has stopped
stays as it is. -/
def scanStep (client : CloudClient m) (a : Account) : ScanState → m ScanState
  | .reading token ids pages => do
    match ← client.describeInstances token with
    | .error e => return .failed (.cloud "describe_instances" a e)
    | .ok page =>
      match page.nextToken with
      | some t => return .reading (some t) (ids ++ page.liveIds) (pages + 1)
      | none => return .done (ids ++ page.liveIds) (pages + 1)
  | s => return s

/-- Reads at most `fuel` more pages of a listing. -/
def scanPages (client : CloudClient m) (a : Account) : Nat → ScanState → m ScanState
  | 0, s => return s
  | fuel + 1, s => do scanPages client a fuel (← scanStep client a s)

/-- The live instances of the scope's account, by a strategy. -/
def strategyLive (conn : CloudConnector m) (log : Logger m) (kind : MembershipKind)
    (s : AccountScope) : m (Except MembershipError (List String)) := do
  match kind with
  | .autoScaling =>
    let names := groupNames s.info s.settings
    match ← describeGroups conn s names with
    | .error e => return .error e
    | .ok gs =>
      let ids := liveMembers gs
      log { level := .info, target := "ringside_membership::strategy::autoscaling",
            message := "Queried live instances of the autoscaling groups",
            fields := [Event.text "rac" s.info.rac, Event.texts "groups" names,
              Event.shown "account" s.account.name, Event.texts "instances" ids] }
      return .ok ids
  | .instances =>
    let client ← conn.compute s.credentials s.info.region
    match ← scanPages client s.account (← conn.pageBound) .start with
    | .failed e => return .error e
    -- a listing still going after the connector's bound has not answered
    | .reading _ _ pages => return .error (.unfinishedListing s.account pages)
    | .done ids pages =>
      log { level := .info, target := "ringside_membership::strategy::instances",
            message := "Queried live instances of the account",
            fields := [Event.text "rac" s.info.rac, Event.shown "account" s.account.name,
              Event.num "pages" pages, Event.texts "instances" ids] }
      return .ok ids

/-- The declared capacity of the scope's rack, by a strategy. -/
def strategySize (conn : CloudConnector m) (log : Logger m) (kind : MembershipKind)
    (s : AccountScope) : m (Except MembershipError Nat) := do
  match kind with
  | .instances => return .error (.unsupported "rack capacity is unknown outside of autoscaling groups")
  | .autoScaling =>
    let names := groupNames s.info s.settings
    match ← describeGroups conn s names with
    | .error e => return .error e
    | .ok gs =>
      let size := declaredCapacity gs
      log { level := .info, target := "ringside_membership::strategy::autoscaling",
            message := "Summed the maximum sizes of the rack's autoscaling groups",
            fields := [Event.text "rac" s.info.rac, Event.texts "groups" names,
              Event.num "size" size] }
      return .ok size

/-- The live instances of one account's scope; a failure is logged as a warning. -/
def snapshot (conn : CloudConnector m) (log : Logger m) (c : CloudMembership m)
    (s : AccountScope) : m (Except MembershipError (List String)) := do
  let r ← strategyLive conn log c.kind s
  if let .error e := r then
    log { level := .warn, target := providerTarget, message := "Failed to query live instances",
          fields := [Event.text "rac" c.info.rac, Event.text "group" c.info.autoScalingGroup,
            Event.shown "account" s.account.name, Event.text "network" s.label,
            Event.shown "error" e.message] }
  return r

/-- The live instances of the cluster: the own account's, and in a dual-account cluster the
cross account's after them, each once. -/
def liveInstances (conn : CloudConnector m) (log : Logger m) (c : CloudMembership m) :
    m (Except MembershipError (List String)) := do
  let ownScope ← c.scope .own
  match ← snapshot conn log c ownScope with
  | .error e => return .error e
  | .ok own =>
    if !c.settings.dualAccount then
      log { level := .info, target := providerTarget, message := "Single-account cluster",
            fields := [Event.text "rac" c.info.rac] }
      return .ok own
    let crossScope ← c.scope .cross
    match ← snapshot conn log c crossScope with
    | .error e => return .error e
    | .ok cross =>
      log { level := .info, target := providerTarget, message := "Dual-account cluster",
            fields := [Event.text "rac" c.info.rac, Event.text "own_network" ownScope.label,
              Event.texts "own" own, Event.text "cross_network" crossScope.label,
              Event.texts "cross" cross] }
      let merged := mergeSnapshots own cross
      log { level := .info, target := providerTarget,
            message := "Combined live instances of both accounts",
            fields := [Event.text "rac" c.info.rac, Event.texts "instances" merged] }
      return .ok merged

/-- The declared capacity of the local rack, asked in the own account's scope. -/
def racMembershipSize (conn : CloudConnector m) (log : Logger m) (c : CloudMembership m) :
    m (Except MembershipError Nat) := do
  strategySize conn log c.kind (← c.scope .own)

/-- The network id, unless it is missing or blank. -/
def requireVpcId (c : CloudMembership m) : Except MembershipError String :=
  match c.info.vpcId with
  | some v => if Text.isBlankText v then .error .missingVpcId else .ok v
  | none => .error .missingVpcId

/-- The security group that rule changes apply to. -/
def groupTarget (log : Logger m) (c : CloudMembership m) (client : CloudClient m) :
    m (Except MembershipError GroupTarget) := do
  let name := c.settings.aclGroupName
  if !c.info.networkMode.isVpc then return .ok (.name name)
  match c.requireVpcId with
  | .error e => return .error e
  | .ok vpc =>
    match ← client.describeSecurityGroups (.byNameInVpc name vpc) with
    | .error e => return .error (.cloud "describe_security_groups" .own e)
    | .ok [] => return .error (.securityGroupNotFound name vpc)
    | .ok (g :: _) =>
      log { level := .debug, target := providerTarget, message := "Resolved the security group id",
            fields := [Event.text "group_id" g.groupId, Event.text "group_name" name,
              Event.text "vpc_id" vpc] }
      return .ok (.id g.groupId)

/-- Adds (`grant`) or removes ingress rules for some ranges; nothing to do for no ranges. -/
def changeAcl (conn : CloudConnector m) (log : Logger m) (c : CloudMembership m) (grant : Bool)
    (ranges : List String) (fromPort toPort : Nat) : m (Except MembershipError Unit) := do
  if ranges.isEmpty then return .ok ()
  let client ← conn.compute (← c.own.credentials) c.info.region
  match ← groupTarget log c client with
  | .error e => return .error e
  | .ok target =>
    let perms := [IpPermission.tcp ranges fromPort toPort]
    let r ← if grant then client.authorizeIngress target perms else client.revokeIngress target perms
    match r with
    | .error e =>
      return .error (.cloud (if grant then "authorize_security_group_ingress"
        else "revoke_security_group_ingress") .own e)
    | .ok () =>
      log { level := .info, target := providerTarget,
            message := if grant then "Added ingress rules" else "Removed ingress rules",
            fields := [Event.text "network" c.info.networkMode.name,
              Event.shown "group" target.record, Event.texts "ranges" ranges,
              Event.num "from_port" fromPort, Event.num "to_port" toPort] }
      return .ok ()

/-- The address ranges admitted to exactly a range of ports, sorted and each once. -/
def listAcl (conn : CloudConnector m) (log : Logger m) (c : CloudMembership m)
    (fromPort toPort : Nat) : m (Except MembershipError (List String)) := do
  let name := c.settings.aclGroupName
  let query : Except MembershipError SecurityGroupQuery :=
    if c.info.networkMode.isVpc then (SecurityGroupQuery.byNameInVpc name ·) <$> c.requireVpcId
    else .ok (.byNames [name])
  let .ok query := query | return .error .missingVpcId
  let client ← conn.compute (← c.own.credentials) c.info.region
  match ← client.describeSecurityGroups query with
  | .error e => return .error (.cloud "describe_security_groups" .own e)
  | .ok gs =>
    let ranges := coveredRanges gs fromPort toPort
    log { level := .debug, target := providerTarget, message := "Fetched current ingress rules",
          fields := [Event.text "network" c.info.networkMode.name, Event.num "from_port" fromPort,
            Event.num "to_port" toPort, Event.num "count" ranges.length] }
    return .ok ranges

/-- The membership operations of a cloud membership. -/
def access (conn : CloudConnector m) (log : Logger m) (c : CloudMembership m) :
    MembershipAccess m where
  isInstanceAlive r := do
    if r.isPlaceholder then return .ok false
    match ← c.liveInstances conn log with
    | .error e => return .error e
    | .ok live => return .ok (live.contains r.instanceId)
  racMembershipSize := c.racMembershipSize conn log
  racCount := c.settings.racs.length
  addAcl ranges f t := c.changeAcl conn log true ranges f t
  removeAcl ranges f t := c.changeAcl conn log false ranges f t
  listAcl f t := c.listAcl conn log f t

end CloudMembership

end RingIdentity
