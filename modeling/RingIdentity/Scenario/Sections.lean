import RingIdentity.Scenario.Request
import RingIdentity.App.Settings
import RingIdentity.Ring.Instance
/-!
Scenarios over single sections and values: reading an embedded section of any type, looking up
names, comparing slugs, splitting listings, and building records and settings step by step.
-/
namespace RingIdentity

namespace Scenario

/-- The reply to reading a section of a named type. -/
def parseAs (type : String) (value : Json) : Reply Json :=
  if type = "listing" then (fun l : Listing => Json.strs l.items) <$> embedded (Listing.read .json) value
  else if type = "network_mode" then
    (fun m : NetworkMode => Json.str m.name) <$> embedded (NetworkMode.read .json) value
  else if type = "membership_kind" then
    (fun k : MembershipKind => Json.str k.name) <$> embedded (MembershipKind.read .json) value
  else if type = "verbosity" then
    (fun v : Verbosity => Json.obj [("verbosity", .str v.name), ("level_filter", .str v.name)]) <$>
      embedded Verbosity.read value
  else if type = "format_flavor" then
    (fun f : Flavor => Json.str f.name) <$> embedded (Flavor.read .json) value
  else if type = "retry_config" then RetryPolicy.toJson <$> embedded (RetryPolicy.read .json) value
  else if type = "identity_config" then
    IdentitySettings.toJson <$> embedded (IdentitySettings.read .json) value
  else if type = "membership_config" then
    MembershipSettings.toJson <$> embedded (MembershipSettings.read .json) value
  else if type = "tracing_config" then
    LogSettings.toJson <$> embedded (LogSettings.read .json) value
  else if type = "credentials_config" then
    Credentials.toJson <$> embedded (Credentials.read .json) value
  else if type = "instance_info" then InstanceInfo.toJson <$> embedded (InstanceInfo.read .json) value
  else if type = "ring_instance" then
    (fun r : RingInstance => Json.obj [("instance", r.toJson), ("is_placeholder", .bool r.isPlaceholder),
      ("display", .str r.display)]) <$> embedded RingInstance.read value
  else if type = "app_config" then AppSettings.toJson <$> embedded (AppSettings.read .json) value
  else .error (malformed ("unknown type `" ++ type ++ "`"))

/-- `parse`: reads the embedded `value` as a section of the requested `type`. -/
def parse (req : Json) : Reply Json := do
  let type ← needText req "type"
  let value ← needDocument req "value"
  parseAs type value

/-- `name_lookup`: the verbosity and the flavor a name stands for. -/
def nameLookup (req : Json) : Reply Json := do
  let name ← needText req "name"
  .ok (.obj [("verbosity", Json.optStr ((Verbosity.ofName? name).map Verbosity.name)),
    ("flavor", Json.optStr ((Flavor.ofName? name).map Flavor.name))])

/-- The name of an order. -/
def orderingName : Ordering → String
  | .lt => "less"
  | .eq => "equal"
  | .gt => "greater"

/-- `slug`: two texts compared as slugs. -/
def slug (req : Json) : Reply Json := do
  let a ← needText req "a"
  let b ← needText req "b"
  .ok (.obj [("eq", .bool (Slug.same a b)), ("cmp", .str (orderingName (Slug.cmp a b))),
    ("norm_a", .str (Slug.normalize a)), ("norm_b", .str (Slug.normalize b))])

/-- `listing_csv`: a comma-separated text as a listing. -/
def listingCsv (req : Json) : Reply Json := do
  let input ← needText req "input"
  .ok (Json.strs (Listing.ofCsv input).items)

/-- `listing_api`: a listing of some entries, seen in every way a listing is seen. -/
def listingApi (req : Json) : Reply Json :=
  let entries := texts req "items"
  let l := Listing.ofEntries entries
  let small := entries.length ≤ 4
  .ok (.obj [("items", Json.strs l.items), ("len", Json.nat l.length),
    ("first", Json.optStr l.items.head?), ("as_vec", Json.strs l.items),
    ("iterated", Json.strs l.items),
    ("from_array", if small then Json.strs l.items else .null),
    ("array_equal", if small then .bool true else .null)])

/-- The reply form of a record: the record, whether it is a placeholder, and its display. -/
def instanceReply (r : RingInstance) : Json :=
  .obj [("instance", r.toJson), ("is_placeholder", .bool r.isPlaceholder),
    ("display", .str r.display)]

/-- `ring_instance`: a record built step by step. -/
def ringInstance (req : Json) : Reply Json := do
  let app ← needText req "app"
  let id ← needNat req "id"
  let r :=
    if boolD req "placeholder" false then RingInstance.placeholder app id (textD req "rac" "")
    else
      let r := RingInstance.make app id (textD req "instance_id" "")
      match text? req "rac" with
      | some rac => r.withRac rac
      | none => r
  let r := match text? req "dc" with
    | some dc => r.withDc dc
    | none => r
  let r := match text? req "host_name", text? req "host_ip" with
    | none, none => r
    | n, i => r.withHost (n.getD "") (i.getD "")
  let r := match text? req "token" with
    | some t => r.withToken t
    | none => r
  let r := match text? req "with_app" with
    | some a => r.withApp a
    | none => r
  .ok (instanceReply r)

/-- `ring_instance_fields`: the fields of an embedded record. -/
def ringInstanceFields (req : Json) : Reply Json := do
  let r ← needEmbedded RingInstance.read req "instance"
  .ok (.obj [("id", Json.nat r.id), ("app", .str r.app), ("instance_id", .str r.instanceId),
    ("rac", .str r.rac), ("dc", .str r.dc), ("host_name", .str r.hostName),
    ("host_ip", .str r.hostIp), ("token", Json.optStr r.token),
    ("is_placeholder", .bool r.isPlaceholder)])

/-- Applies one building step to instance facts. -/
def infoStep (i : InstanceInfo) (step : Json) : InstanceInfo :=
  match step with
  | .arr [.str "asg", .str name] => i.withAutoScalingGroup name
  | .arr [.str "vpc", .str id] => i.inVpc id
  | .arr [.str "mode", .str m] => i.withNetworkMode (if m = "vpc" then .vpc else .classic)
  | .arr [.str "host", .str name, .str ip] => i.withHost name ip
  | _ => i

/-- `info_build`: instance facts built step by step. -/
def infoBuild (req : Json) : Reply Json :=
  let i := InstanceInfo.make (textD req "instance_id" "") (textD req "region" "") (textD req "rac" "")
  let i := (items req "steps").foldl infoStep i
  .ok (.obj [("info", i.toJson), ("mode_display", .str i.networkMode.name),
    ("is_vpc", .bool i.networkMode.isVpc)])

/-- `identity_config_build`: identity settings built step by step. -/
def identityBuild (req : Json) : Reply Json :=
  let s := IdentitySettings.make (textD req "app" "cass_cluster")
  let s := if (req.field? "seeds").isSome then s.withSeeds (texts req "seeds") else s
  let s := match bool? req "auto_bootstrap" with | some b => s.withAutoBootstrap b | none => s
  let s := match bool? req "multi_dc" with | some b => s.withMultiDc b | none => s
  let s := match bool? req "create_new_token" with | some b => s.withCreateNewToken b | none => s
  let s := match req.field? "new_token_retry" with
    | some r => s.withNewTokenRetry
        (RetryPolicy.make (natD r "attempts" 100) (Duration.ofMillis (natD r "delay_ms" 100)))
    | none => s
  .ok (.obj [("config", s.toJson), ("is_default", .bool (s = IdentitySettings.default))])

/-- `membership_config_build`: membership settings built step by step. -/
def membershipBuild (req : Json) : Reply Json :=
  let s := MembershipSettings.make (texts req "racs")
  let s := match text? req "kind" with
    | some k => s.withKind (if k = "instances" then .instances else .autoScaling)
    | none => s
  let s := match text? req "acl_group_name" with | some g => s.withAclGroupName g | none => s
  let s := if (req.field? "sibling_asg_names").isSome then
      s.withSiblingAsgNames (texts req "sibling_asg_names") else s
  let s := match bool? req "dual_account" with | some b => s.withDualAccount b | none => s
  .ok (.obj [("config", s.toJson), ("is_default", .bool (s = MembershipSettings.default))])

/-- A verbosity by name; an unknown name is the default `info`. -/
def verbosityNamed (name : String) : Verbosity := (Verbosity.ofName? name).getD .info

/-- `tracing_config_build`: log settings built step by step. -/
def logBuild (req : Json) : Reply Json :=
  let s := LogSettings.default
  let s := match text? req "verbosity" with
    | some v => s.withVerbosity (verbosityNamed v)
    | none => s
  let s := (items req "targets").foldl (fun s pair =>
    match pair with
    | .arr [.str t, .str v] => s.withTarget t (verbosityNamed v)
    | _ => s) s
  .ok (.obj [("config", s.toJson),
    ("target_filters", Json.strs (s.targets.map fun (_, v) => v.name)),
    ("is_default", .bool (s = LogSettings.default))])

end Scenario

end RingIdentity
