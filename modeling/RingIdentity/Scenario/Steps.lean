import RingIdentity.Scenario.Specs
import RingIdentity.App.Launch
/-!
Steps of scenarios: registry calls, membership queries, changes to the cloud, and questions to a
resolved identity or a launched sidecar. A step answers its result; a failure of the step is its
error object.
-/
namespace RingIdentity

namespace Scenario

/-- The membership a scenario runs with. -/
inductive Members where
  /-- Fixed answers: a number of racks and a rack capacity or its failure. -/
  | fixed (racCount : Nat) (capacity : Except MembershipError Nat)
  /-- Membership from the world's cloud. -/
  | cloud (c : CloudMembership Sim)

namespace Members

/-- The membership operations. -/
def access : Members → MembershipAccess Sim
  | .fixed n c => MembershipAccess.fixed n c
  | .cloud c => c.access World.connector World.log

/-- Whether steps show the cloud calls they made. -/
def showsCalls : Members → Bool
  | .fixed .. => false
  | .cloud _ => true

end Members

/-- What after-steps act on. -/
structure Stage where
  members : Members
  identity : Option Identity := none
  settings : Option AppSettings := none

/-- The JSON of a result or its failure. -/
def resultJson {ε α : Type} (err : ε → Json) (ok : α → Json) : Except ε α → Json
  | .ok v => ok v
  | .error e => err e

/-- The record given to a step. -/
def stepRecord (step : Json) (key : String) : Reply RingInstance := needEmbedded RingInstance.read step key

/-- Runs a registry step, if the step is one. -/
def registryStep (op : String) (step : Json) : Option (Sim Json) :=
  let reg := World.registryAccess
  let withRecord (key : String) (k : RingInstance → Sim Json) : Sim Json :=
    match stepRecord step key with
    | .ok r => k r
    | .error e => pure e
  if op = "register" then some <| withRecord "instance" fun r => do
    return resultJson RegistryError.toJson RingInstance.toJson (← reg.register r)
  else if op = "update" then some <| withRecord "current" fun c => withRecord "replacement" fun r => do
    return resultJson RegistryError.toJson RingInstance.toJson (← reg.update c r)
  else if op = "delete" then some <| withRecord "instance" fun r => do
    return resultJson RegistryError.toJson (fun _ => Json.null) (← reg.delete r)
  else if op = "get" then some do
    let r ← reg.get (textD step "app" "") (textD step "rac" "") (natD step "id" 0)
    return resultJson RegistryError.toJson (fun f => .obj [("found",
      match f with | some r => r.toJson | none => .null)]) r
  else if op = "all_ids" then some do
    return resultJson RegistryError.toJson (fun rs => .arr (rs.map RingInstance.toJson))
      (← reg.allIds (textD step "app" ""))
  else if op = "len" then some do
    let n := (← get).registry.size (textD step "app" "")
    return .obj [("len", Json.nat n), ("is_empty", .bool (n == 0))]
  else if op = "load_rack_map" then some do
    return resultJson RegistryError.toJson rackMapJson (← Identity.loadRackMap reg (textD step "app" ""))
  else if op = "set_down" then some do
    modify fun w => { w with faults := { w.faults with down := boolD step "down" false } }
    return .null
  else none

/-- Runs a change to the cloud, if the step is one. -/
def cloudStep (op : String) (step : Json) : Option (Sim Json) :=
  let change (f : MemoryCloud → MemoryCloud) : Sim Json := do
    modify fun w => { w with cloud := f w.cloud }
    return .null
  if op = "add_group" then some (change fun c => { c with groups := c.groups ++ [groupSpec step] })
  else if op = "add_page" then some (change fun c => { c with pages := c.pages ++ [pageSpec step] })
  else if op = "add_security_group" then
    some (change fun c => { c with securityGroups := c.securityGroups ++ [securityGroupSpec step] })
  else if op = "set_fault" then some (change fun c => { c with fault := faultSpec step })
  else none

/-- Runs a membership step, if the step is one. -/
def membershipStep (members : Members) (op : String) (step : Json) : Option (Sim Json) :=
  let mem := members.access
  let merr := MembershipError.toJson
  if op = "is_alive" then some <|
    match stepRecord step "instance" with
    | .ok r => do return resultJson merr Json.bool (← mem.isInstanceAlive r)
    | .error e => pure e
  else if op = "rac_membership_size" then some do
    return resultJson merr Json.nat (← mem.racMembershipSize)
  else if op = "rac_count" then some (pure (Json.nat mem.racCount))
  else if op = "add_acl" then some do
    return resultJson merr (fun _ => .null)
      (← mem.addAcl (texts step "ranges") (natD step "from_port" 0) (natD step "to_port" 0))
  else if op = "remove_acl" then some do
    return resultJson merr (fun _ => .null)
      (← mem.removeAcl (texts step "ranges") (natD step "from_port" 0) (natD step "to_port" 0))
  else if op = "list_acl" then some do
    return resultJson merr Json.strs (← mem.listAcl (natD step "from_port" 0) (natD step "to_port" 0))
  else match members with
    | .cloud c =>
      if op = "live_instances" then some do
        return resultJson merr Json.strs (← c.liveInstances World.connector World.log)
      else if op = "group_names" then
        some (pure (.obj [("names", Json.strs (groupNames c.info c.settings)),
          ("network_label", .str (c.label .own))]))
      else none
    | .fixed .. => none

/-- Runs a question to a resolved identity, if the step is one; with the identity after it. -/
def identityStep (members : Members) (i : Identity) (op : String) (step : Json) :
    Option (Sim (Json × Identity)) :=
  let reg := World.registryAccess
  let ierr := IdentityError.toJson
  if op = "seeds" then some do
    return (resultJson ierr Json.strs (← i.seeds reg members.access World.log), i)
  else if op = "is_seed" then some do return (resultJson ierr Json.bool (← i.isSeed reg), i)
  else if op = "rack_map" then some do return (resultJson ierr rackMapJson (← i.rackMap reg), i)
  else if op = "seed_policy" then
    some (pure (.obj [("excludes_local_host", .bool i.seedPolicy.excludesLocalHost),
      ("address_form", .str i.seedPolicy.addressForm.name)], i))
  else if op = "state" then some (pure (identityJson i, i))
  else if op = "set_replaced_ip" then
    let i := i.setReplacedIp (textD step "ip" "")
    some (pure (.obj [("is_replace", .bool i.isReplace), ("replaced_ip", .str i.replacedIp)], i))
  else if op = "set_backup_identifier" then
    let i := i.setBackupIdentifier (textD step "id" "")
    some (pure (.obj [("backup_identifier", .str i.backupIdentifier)], i))
  else none

/-- Runs one after-step. -/
def afterStep (st : Stage) (step : Json) : Sim (Json × Stage) := do
  let op := textD step "op" ""
  let fromIdentity := st.identity.bind fun i => identityStep st.members i op step
  match fromIdentity with
  | some run =>
    let (j, i) ← run
    return (j, { st with identity := some i })
  | none =>
    let launchStep : Option (Sim Json) :=
      match st.identity, st.settings with
      | some i, some s =>
        if op = "sidecar_seeds" then some do
          return resultJson IdentityError.toJson Json.strs
            (← i.seeds World.registryAccess st.members.access World.log)
        else if op = "config" then some (pure s.toJson)
        else none
      | _, _ => none
    let plain := (registryStep op step <|> (if st.members.showsCalls then cloudStep op step else none))
      <|> membershipStep st.members op step <|> launchStep
    match plain with
    | some run => return (← run, st)
    | none => return (malformed ("unknown op `" ++ op ++ "`"), st)

/-- How an after-step is shown: its result, with the cloud calls it made when `withCalls`. -/
def stepEntry (withCalls : Bool) (j : Json) (calls : List CloudCall) : Json :=
  if withCalls then .obj [("result", j), ("calls", .arr (calls.map callJson))] else .obj [("result", j)]

/-- Runs after-steps in order, giving the stage they leave behind; `entry` shows each step from
its result and the cloud calls it made. -/
def afterSteps (entry : Json → List CloudCall → Json) : Stage → List Json → Sim (List Json × Stage)
  | st, [] => return ([], st)
  | st, step :: rest => do
    let w ← get
    let (callsBefore, clientsBefore) := (w.cloud.calls.length, w.cloud.clientsOpened)
    let (j, st) ← afterStep st step
    let (calls, _) := (← get).cloudSince callsBefore clientsBefore
    let (entries, last) ← afterSteps entry st rest
    return (entry j calls :: entries, last)

end Scenario

end RingIdentity
