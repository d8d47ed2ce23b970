import RingIdentity.Scenario.Specs
import RingIdentity.App.Error
/-!
Scenarios over plain values: rack maps and the seeds chosen from them, merged snapshots, the
small rules of the cloud, error texts, retried operations and token claims.

A retried operation here is scripted: attempt `k` plays the `k`-th listed outcome, the last one
again once the list runs out, and a failure when the list is empty. A failed attempt's error
names its attempt, so the error a run gives up with shows how far it went.
-/
namespace RingIdentity

namespace Scenario

/-- A record, or null. -/
def optInstance : Option RingInstance → Json
  | some r => r.toJson
  | none => .null

/-- `rack_map`: a rack map of records, with the order of its records and queries by rack,
cloud instance and token. -/
def rackMap (req : Json) : Reply Json := do
  let m := RackMap.ofInstances (← recordsOf (items req "instances"))
  let rackQuery (rac : String) : Json :=
    .obj [("rac", .str rac), ("ids", .arr ((m.rack rac).map fun r => Json.nat r.id)),
      ("anchor", optInstance (m.anchor rac)),
      ("max_id", match m.maxId rac with | some n => Json.nat n | none => .null)]
  .ok ((rackMapJson m).withMembers
    [("order", .arr (m.instances.map fun r => .arr [.str r.rac, Json.nat r.id, .str r.instanceId])),
      ("rack_queries", .arr ((texts req "racs").map rackQuery)),
      ("find", .arr ((texts req "instance_ids").map fun i => optInstance (m.findInstance i))),
      ("holds", .arr ((texts req "tokens").map fun t => .bool (m.holdsToken t)))])

/-- `seed_select`: the seeds a policy chooses for a local record, and which records it admits. -/
def seedSelect (req : Json) : Reply Json := do
  let rs ← recordsOf (items req "instances")
  let node ← needEmbedded RingInstance.read req "local"
  let policy := (SeedPolicy.ofAutoBootstrap (boolD req "auto_bootstrap" true)).withAddressForm
    (AddressForm.ofMultiDc (boolD req "multi_dc" false))
  .ok (.obj [("seeds", Json.strs (policy.select (RackMap.ofInstances rs) node (nat? req "capacity"))),
    ("admits", .arr (rs.map fun r => .bool (policy.admits r node))),
    ("excludes_local_host", .bool policy.excludesLocalHost),
    ("address_form", .str policy.addressForm.name)])

/-- `merge_snapshots`: two accounts' live instances merged, and whether merging the other
account in again changes nothing. -/
def mergeSnapshotsOf (req : Json) : Reply Json :=
  let cross := texts req "cross"
  let merged := mergeSnapshots (texts req "local") cross
  .ok (.obj [("merged", Json.strs merged), ("idempotent", .bool (mergeSnapshots merged cross == merged))])

/-- Whether a probe `[from, to]` names exactly the range of ports of a rule. -/
def probeCovers (rule : IpPermission) : Json → Bool
  | .arr [.int f, .int t] => 0 ≤ f && 0 ≤ t && rule.coversExactly f.toNat t.toNat
  | _ => false

/-- `cloud_misc`: live states, network labels of the accounts, and a TCP ingress rule with the
ranges of ports it covers. -/
def cloudMisc (req : Json) : Reply Json :=
  let rule := IpPermission.tcp (texts req "ranges") (natD req "from_port" 0) (natD req "to_port" 0)
  let labels (a : Account) : Json :=
    .arr [.str a.name, Json.strs [a.networkLabel .classic, a.networkLabel .vpc]]
  .ok (.obj [("live", .arr ((texts req "states").map fun s => .bool (isLiveState s))),
    ("network_labels", .arr [labels .own, labels .cross]),
    ("rule", .obj [("protocol", .str rule.protocol), ("ip_ranges", Json.strs rule.ipRanges)]),
    ("covers", .arr ((items req "probes").map fun p => .bool (probeCovers rule p)))])

/-- Reads a settings error spec: a missing key, a message, or frozen settings. -/
def settingErrorSpec (spec : Json) : SettingError :=
  match spec.get? "not_found", spec.get? "message" with
  | some (.str k), _ => .notFound k
  | _, some (.str t) => .plain t
  | _, _ => .frozen

/-- Reads a configuration error spec. -/
def appConfigErrorSpec (spec : Json) : AppConfigError :=
  match spec.get? "build", spec.get? "parse" with
  | some c, _ => .build (settingErrorSpec c)
  | _, some c => .parse (settingErrorSpec c)
  | _, _ => .build .frozen

/-- Reads a launch error spec. -/
def launchErrorSpec (spec : Json) : LaunchError :=
  match spec with
  | .str "missing_instance_info" => .missingInstanceInfo
  | spec =>
    match spec.get? "missing_credentials", spec.get? "identity", spec.get? "config" with
    | some (.str a), _, _ => .missingCredentials (accountOf a)
    | _, some i, _ => .identity (identityErrorSpec i)
    | _, _, some c => .config (appConfigErrorSpec c)
    | _, _, _ => .missingInstanceInfo

/-- The JSON form of a cloud fault. -/
def cloudErrorJson (e : CloudError) : Json :=
  .obj [("error", .str "CloudError"), ("message", .str e.text), ("code", .str e.code),
    ("text", .str e.message)]

/-- `error_display`: the error object of one error built from a spec. -/
def errorDisplay (req : Json) : Reply Json := do
  let spec ← need req "spec"
  match spec with
  | .obj [(kind, s)] =>
    if kind = "registry" then .ok (registryErrorSpec s).toJson
    else if kind = "membership" then .ok (membershipErrorSpec s).toJson
    else if kind = "retriever" then .ok (retrieverErrorSpec s).toJson
    else if kind = "identity" then .ok (identityErrorSpec s).toJson
    else if kind = "cloud" then .ok (cloudErrorJson (cloudErrorSpec s))
    else if kind = "app_config" then .ok (appConfigErrorSpec s).toJson
    else if kind = "launch" then .ok (launchErrorSpec s).toJson
    else .error (malformed ("unknown error kind `" ++ kind ++ "`"))
  | _ => .error (malformed "an error spec is an object with one member")

/-- The outcome played on attempt `k`: the `k`-th listed, the last once the list runs out, and
a failure when nothing is listed. -/
def outcomeAt (outcomes : List Json) (k : Nat) : Json :=
  match outcomes.getLast? with
  | none => .obj [("err", .str "no outcome")]
  | some last => outcomes[k - 1]?.getD last

/-- Plays attempt `k`, counting it: a success gives the listed value and the attempt; a failure
gives its text with the attempt, `failure` when no text is listed. -/
def playAttempt (outcomes : List Json) (k : Nat) : StateM Nat (Except String (Json × Nat)) := do
  modify (· + 1)
  let o := outcomeAt outcomes k
  match o.get? "ok" with
  | some v => return .ok (v, k)
  | none => return .error (textD o "err" "failure" ++ " (attempt " ++ toString k ++ ")")

/-- The JSON form of a successful attempt. -/
def successJson (v : Json × Nat) : Json :=
  .obj [("ok", .obj [("value", v.1), ("attempt", Json.nat v.2)])]

/-- The retry policy a request names: its embedded policy, or its attempts and delay in
milliseconds. -/
def retryPolicyOf (req : Json) : Reply RetryPolicy := do
  match ← embedded? (RetryPolicy.read .json) req "config" with
  | some p => .ok p
  | none => .ok (RetryPolicy.make (natD req "attempts" 100) (Duration.ofMillis (natD req "delay_ms" 100)))

/-- `retry`: a scripted operation run under a retry policy, with text errors. -/
def retry (req : Json) : Reply Json := do
  let p ← retryPolicyOf req
  let (r, calls) := (p.run (playAttempt (items req "outcomes"))).run 0
  let result := match r with
    | .ok v => successJson v
    | .error x => .obj [("exhausted", .obj [("attempts", Json.nat x.attempts),
        ("last_error", .str x.lastError), ("display", .str (x.message id)),
        ("debug", .str (x.record Text.quoted))])]
  .ok (.obj [("config", p.toJson), ("retry_attempts", Json.nat p.attempts), ("result", result),
    ("calls", Json.nat calls), ("next", p.nextDelay.toJson)])

/-- `retry_typed`: a scripted operation run under a retry policy, with strategy errors. -/
def retryTyped (req : Json) : Reply Json := do
  let p := if boolD req "default" false then RetryPolicy.default
    else RetryPolicy.make (natD req "attempts" 100) (Duration.ofMillis (natD req "delay_ms" 100))
  let op (k : Nat) : StateM Nat (Except RetrieverError (Json × Nat)) :=
    (Except.mapError RetrieverError.other ·) <$> playAttempt (items req "outcomes") k
  let r := ((p.run op).run 0).1
  let result := match r with
    | .ok v => successJson v
    | .error x => .obj [("exhausted", .obj [("attempts", Json.nat x.attempts),
        ("display", .str (x.message RetrieverError.message)),
        ("debug", .str (x.record RetrieverError.record)),
        ("source", .str x.lastError.message)])]
  .ok (.obj [("retry_attempts", Json.nat p.attempts), ("result", result),
    ("next", p.nextDelay.toJson)])

/-- `token_claim`: a claim of a record replacing one address after another. -/
def tokenClaim (req : Json) : Reply Json := do
  let r ← needEmbedded RingInstance.read req "instance"
  let (c, steps) := (texts req "replacing").foldl
    (fun (acc : TokenClaim × List Json) ip =>
      let c := acc.1.replacing ip
      (c, acc.2 ++ [Json.optStr c.replacedIp]))
    (TokenClaim.ofInstance r, [])
  .ok (.obj [("claim", .obj [("instance", c.inst.toJson), ("replaced_ip", Json.optStr c.replacedIp)]),
    ("steps", .arr steps), ("parts", .arr [c.inst.toJson, Json.optStr c.replacedIp]),
    ("no_token", .bool true)])

end Scenario

end RingIdentity
