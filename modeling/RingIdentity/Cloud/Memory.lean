import RingIdentity.Cloud.Api
/-!
A cloud held in memory, for running membership without a network.

It holds autoscaling groups and pages of instances per access key, and security groups shared by
all keys. Every call is first recorded, with the access key of the client that made it, and then
fails with the injected fault when one is set that applies to the call's name (all calls when no
names are given) and to the key (all keys when none is given). Rule changes are recorded and
change nothing. Clients are counted as they are opened; each is dropped when its operation is
done.

Instance listings page by tokens `page-N`: the first page has no token, page `N` the token
`page-N` (any other token is read as the first page), and a page carries the next page's token
while one follows. A page past the last holds nothing.
-/
namespace RingIdentity

/-- A call made to the in-memory cloud. -/
inductive CloudCall where
  | describeAutoScalingGroups (key : String) (names : List String)
  | describeInstances (key : String) (token : Option String)
  | describeSecurityGroups (key : String) (query : SecurityGroupQuery)
  | authorizeIngress (key : String) (target : GroupTarget) (permissions : List IpPermission)
  | revokeIngress (key : String) (target : GroupTarget) (permissions : List IpPermission)
  deriving DecidableEq, Repr, Inhabited

namespace CloudCall

/-- The name of a call. -/
def name : CloudCall → String
  | .describeAutoScalingGroups .. => "describe_auto_scaling_groups"
  | .describeInstances .. => "describe_instances"
  | .describeSecurityGroups .. => "describe_security_groups"
  | .authorizeIngress .. => "authorize_ingress"
  | .revokeIngress .. => "revoke_ingress"

/-- The access key of the client that made a call. -/
def key : CloudCall → String
  | .describeAutoScalingGroups k _ => k
  | .describeInstances k _ => k
  | .describeSecurityGroups k _ => k
  | .authorizeIngress k _ _ => k
  | .revokeIngress k _ _ => k

end CloudCall

/-- A security group with the network it lives in (none for the flat network). -/
structure StoredGroup where
  group : SecurityGroup
  vpc : Option String
  deriving DecidableEq, Repr, Inhabited

/-- A fault to inject: what is answered, to which calls (all when empty) and to which key (all
when none). -/
structure InjectedFault where
  error : Option CloudError := none
  calls : List String := []
  key : Option String := none
  deriving DecidableEq, Repr, Inhabited

/-- The state of an in-memory cloud. -/
structure MemoryCloud where
  /-- Autoscaling groups, each with the access key that sees it, in storing order. -/
  groups : List (String × AutoScalingGroup) := []
  /-- Pages of instances, each with the access key that sees it, in storing order. -/
  pages : List (String × List ListedInstance) := []
  /-- Security groups, in storing order. -/
  securityGroups : List StoredGroup := []
  /-- The fault to inject. -/
  fault : InjectedFault := {}
  /-- The calls made, latest first. -/
  calls : List CloudCall := []
  /-- How many clients were opened. -/
  clientsOpened : Nat := 0
  deriving DecidableEq, Repr, Inhabited

namespace MemoryCloud

/-- The fault that a call meets, if any. -/
def faultFor (c : MemoryCloud) (call : CloudCall) : Option CloudError :=
  match c.fault.error with
  | none => none
  | some e =>
    if (c.fault.calls.isEmpty || c.fault.calls.contains call.name) &&
        (c.fault.key.isNone || c.fault.key == some call.key) then some e
    else none

/-- Records a call; the answer is the fault it meets or the given one. -/
def answer {α : Type} (c : MemoryCloud) (call : CloudCall) (ok : α) : Except CloudError α × MemoryCloud :=
  let c := { c with calls := call :: c.calls }
  match c.faultFor call with
  | some e => (.error e, c)
  | none => (.ok ok, c)

/-- The pages a key sees. -/
def pagesOf (c : MemoryCloud) (key : String) : List (List ListedInstance) :=
  (c.pages.filter (·.1 == key)).map (·.2)

/-- The page index a token names. -/
def pageIndex : Option String → Nat
  | none => 0
  | some t =>
    match t.toList with
    | 'p' :: 'a' :: 'g' :: 'e' :: '-' :: ds =>
      if !ds.isEmpty && ds.all Char.isDigit then ds.foldl (fun n d => n * 10 + (d.toNat - 48)) 0 else 0
    | _ => 0

/-- The page of a key's listing that a token names. -/
def page (c : MemoryCloud) (key : String) (token : Option String) : InstancePage :=
  let ps := c.pagesOf key
  let i := pageIndex token
  { reservations := match ps[i]? with | some p => [p] | none => []
    nextToken := if i + 1 < ps.length then some ("page-" ++ toString (i + 1)) else none }

/-- Whether a stored group answers a query. -/
def answers (q : SecurityGroupQuery) (g : StoredGroup) : Bool :=
  match q with
  | .byNames names => g.vpc.isNone && names.contains g.group.groupName
  | .byNameInVpc name vpc => g.vpc == some vpc && g.group.groupName == name

/-- A client of the cloud for an access key, over a state reached through `load` and `store`. -/
def client {m : Type → Type} [Monad m] (load : m MemoryCloud) (store : MemoryCloud → m Unit)
    (key : String) : CloudClient m :=
  let run {α : Type} (call : CloudCall) (ok : MemoryCloud → α) : m (Except CloudError α) := do
    let c ← load
    let (r, c') := c.answer call (ok c)
    store c'
    return r
  { describeAutoScalingGroups := fun names =>
      run (.describeAutoScalingGroups key names) fun c =>
        ((c.groups.filter fun (k, g) => k == key && names.contains g.name).map (·.2))
    describeInstances := fun token => run (.describeInstances key token) fun c => c.page key token
    describeSecurityGroups := fun q =>
      run (.describeSecurityGroups key q) fun c =>
        ((c.securityGroups.filter (answers q)).map (·.group))
    authorizeIngress := fun t ps => run (.authorizeIngress key t ps) fun _ => ()
    revokeIngress := fun t ps => run (.revokeIngress key t ps) fun _ => () }

/-- The connector of an in-memory cloud: it counts the clients it opens. -/
def connector {m : Type → Type} [Monad m] (load : m MemoryCloud) (store : MemoryCloud → m Unit) :
    CloudConnector m :=
  let open_ (creds : Credentials) (_ : String) : m (CloudClient m) := do
    let c ← load
    store { c with clientsOpened := c.clientsOpened + 1 }
    return client load store creds.accessKeyId
  { autoscaling := open_, compute := open_, pageBound := do return (← load).pages.length + 1 }

end MemoryCloud

end RingIdentity
